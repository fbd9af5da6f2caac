import Logicless.Proofs.Yaml.Cutting
import Logicless.Yaml.Token.Stream

/-!
How cutting a whole YAML text into tokens fails. Each step keeps to the text and holds no fault
back, so the only fault among the tokens of a text is the one that cutting stopped at.
-/

set_option autoImplicit false

namespace Logicless.Yaml

namespace Stream

/-- What is left to read is an end of the text, and no token so far is the place of a fault. -/
structure Sound (cs : List Char) (stream : Stream) : Prop where
  within : stream.head.Within cs
  certain : ∀ token ∈ stream.certain, token.IsCut
  queue : ∀ token ∈ stream.queue, token.IsCut

variable {cs : List Char} {stream : Stream}

theorem Sound.at (sound : stream.Sound cs) {head : Head} (within : head.Within cs)
    (keyAllowed : Bool) : { stream with head, keyAllowed }.Sound cs :=
  ⟨within, sound.certain, sound.queue⟩

theorem Sound.push (sound : stream.Sound cs) (token : Token) (isCut : token.IsCut) :
    (stream.push token).Sound cs := by
  refine ⟨sound.within, sound.certain, fun other among => ?_⟩
  rcases List.mem_append.mp among with before | last
  · exact sound.queue other before
  · cases List.mem_singleton.mp last
    exact isCut

theorem Sound.insertAt (sound : stream.Sound cs) (number : Nat) (token : Token)
    (isCut : token.IsCut) : (stream.insertAt number token).Sound cs := by
  refine ⟨sound.within, sound.certain, fun other among => ?_⟩
  rcases List.mem_append.mp among with before | behind
  · exact sound.queue other (List.mem_of_mem_take before)
  · rcases List.mem_cons.mp behind with rfl | later
    · exact isCut
    · exact sound.queue other (List.mem_of_mem_drop later)

theorem Sound.mark (sound : stream.Sound cs) (token : Token) (isCut : token.IsCut) (width : Nat) :
    (stream.mark token width).Sound cs :=
  (sound.push token isCut).at (sound.within.advance width) false

theorem Sound.closeBlocks (sound : stream.Sound cs) (column : Int) (outer : List Int) :
    (closeBlocks column outer stream).Sound cs ∧
      (closeBlocks column outer stream).head = stream.head := by
  induction outer generalizing stream with
  | nil => exact ⟨sound, rfl⟩
  | cons indent rest ih =>
      unfold Stream.closeBlocks
      split
      · have pushed : (stream.push .blockEnd).Sound cs := sound.push _ nofun
        exact ih ⟨pushed.within, pushed.certain, pushed.queue⟩
      · exact ⟨sound, rfl⟩

theorem Sound.unwind (sound : stream.Sound cs) (column : Int) :
    (stream.unwind column).Sound cs ∧ (stream.unwind column).head = stream.head := by
  unfold Stream.unwind
  split
  · exact ⟨sound, rfl⟩
  · exact sound.closeBlocks column _

theorem Sound.indentTo (sound : stream.Sound cs) {column : Nat} {other : Stream}
    (indented : stream.indentTo column = some other) : other.Sound cs := by
  unfold Stream.indentTo at indented
  split at indented
  · cases indented
    exact ⟨sound.within, sound.certain, sound.queue⟩
  · cases indented

theorem Sound.openBlock (sound : stream.Sound cs) {token : Token} (isCut : token.IsCut) :
    (stream.openBlock token).Sound cs := by
  unfold Stream.openBlock
  split
  · rename_i other indented
    exact (sound.indentTo indented).push _ isCut
  · exact sound

/-- The state in which a mark is read that may open a block collection. -/
theorem Sound.opened (sound : stream.Sound cs) (token : Token) (isCut : token.IsCut) :
    (if stream.inFlow then stream else stream.openBlock token).Sound cs := by
  split
  · exact sound
  · exact sound.openBlock isCut

theorem Sound.skipGap (fuel : Nat) (sound : stream.Sound cs) : (skipGap fuel stream).Sound cs := by
  induction fuel generalizing stream with
  | zero => exact sound
  | succ fuel ih =>
      have behind : (
          let head := stream.head.skipWhile fun c => c = ' ' || (stream.inFlow && c = '\t')
          if head.next = '#' then head.skipWhile (!isLineEnd ·) else head).Within cs := by
        dsimp only
        split
        · exact (sound.within.skipWhile _).skipWhile _
        · exact sound.within.skipWhile _
      unfold Stream.skipGap
      dsimp only at behind ⊢
      generalize (if (stream.head.skipWhile fun c =>
        c = ' ' || (stream.inFlow && c = '\t')).next = '#' then _ else _) = head at behind ⊢
      split
      · exact ih (sound.at behind.lineBreak _)
      · exact sound.at behind stream.keyAllowed

theorem Sound.valueOf (sound : stream.Sound cs) (key : PendingKey) :
    (stream.valueOf key).Sound cs := by
  have settled :
      { stream with pending := stream.pending.filter (·.depth ≠ stream.depth) }.Sound cs :=
    ⟨sound.within, sound.certain, sound.queue⟩
  have keyed := settled.insertAt key.number .key nofun
  refine Sound.mark ?_ .value nofun 1
  split
  · exact keyed
  · split
    · rename_i other indented
      exact (keyed.indentTo indented).insertAt _ .blockMappingStart nofun
    · exact keyed

end Stream

end Logicless.Yaml
