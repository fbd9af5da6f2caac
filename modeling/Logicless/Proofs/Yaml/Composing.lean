import Logicless.Proofs.Reading
import Logicless.Yaml.Node.Build

/-!
How the tree of a YAML text fails to be built. Building only goes on in the tokens of the text, and
each of its failures is one of form or was met as the token of a fault.
-/

set_option autoImplicit false

namespace Logicless.Yaml

namespace Build

/-- A failure of form, or one that cutting the text has left among the tokens. -/
def Fault (tokens : List Token) (error : Error) : Prop :=
  error = .malformed ∨ .fault error ∈ tokens

/-- A step that starts within the tokens of a text goes on in them, or fails for a reason that they
show. -/
def Sound {α : Type} (tokens : List Token) (step : Build α) : Prop :=
  ∀ state, state.tokens <:+ tokens →
    Ends (fun read => read.2.tokens <:+ tokens) (Fault tokens) (step.run state)

section Steps

variable {tokens : List Token} {α β : Type}

theorem Sound.bind {step : Build α} {next : α → Build β} (first : Sound tokens step)
    (rest : ∀ value, Sound tokens (next value)) : Sound tokens (step >>= next) :=
  fun state within => (first state within).bind fun read inside => rest read.1 read.2 inside

theorem Sound.ite {condition : Prop} [Decidable condition] {first second : Build α}
    (holds : condition → Sound tokens first) (fails : ¬ condition → Sound tokens second) :
    Sound tokens (if condition then first else second) := by
  split
  · exact holds ‹_›
  · exact fails ‹_›

theorem pure_sound (value : α) : Sound tokens (pure value : Build α) :=
  fun _ within => .ok within

theorem malformed_sound : Sound tokens (throw .malformed : Build α) :=
  fun _ _ => .error (.inl rfl)

theorem get_sound : Sound tokens (get : Build Building) := fun _ within => .ok within

/-- A change of the state that leaves the tokens alone. -/
theorem modify_sound {change : Building → Building}
    (kept : ∀ state, (change state).tokens = state.tokens) :
    Sound tokens (modify change : Build Unit) :=
  fun state within => .ok (show (change state).tokens <:+ tokens from kept state ▸ within)

theorem peek_sound : Sound tokens peek := fun _ within => .ok within

theorem drop_sound : Sound tokens drop :=
  fun state within => .ok ((List.drop_suffix 1 state.tokens).trans within)

theorem dropIf_sound (token : Token) : Sound tokens (dropIf token) :=
  peek_sound.bind fun _ => .ite (fun _ => drop_sound.bind fun _ => pure_sound true)
    fun _ => pure_sound false

/-- The fault that building reports is the next token. -/
theorem unexpected_sound : Sound tokens (unexpected : Build α) := by
  rintro ⟨rest, anchors, handles, depth⟩ within
  cases rest with
  | nil => exact .error (.inl rfl)
  | cons token others =>
      cases token with
      | fault error => exact .error (.inr (within.subset List.mem_cons_self))
      | _ => exact .error (.inl rfl)

theorem expect_sound (token : Token) : Sound tokens (expect token) :=
  peek_sound.bind fun _ => .ite (fun _ => drop_sound) fun _ => unexpected_sound

/-- What follows a separator, which the first element does without. -/
theorem separated_sound {first : Bool} {token : Token} {next : PUnit → Build α}
    (sound : Sound tokens (next ())) :
    Sound tokens (if !first then expect token >>= next else next ()) :=
  .ite (fun _ => (expect_sound token).bind fun _ => sound) fun _ => sound

theorem nextIs_sound (next : List Token) : Sound tokens (nextIs next) :=
  peek_sound.bind fun _ => pure_sound _

theorem setAnchor_sound (name : Option String) (anchored : Anchored) :
    Sound tokens (setAnchor name anchored) := by
  unfold setAnchor
  split
  · exact modify_sound fun _ => rfl
  · exact pure_sound ()

theorem reference_sound (name : String) : Sound tokens (reference name) := by
  refine get_sound.bind fun state => ?_
  split
  · exact pure_sound _
  · exact pure_sound _
  · exact malformed_sound

theorem anchor?_sound : Sound tokens anchor? := by
  refine peek_sound.bind fun token => ?_
  split
  · exact drop_sound.bind fun _ => pure_sound _
  · exact pure_sound none

theorem tag?_sound : Sound tokens tag? := by
  refine peek_sound.bind fun token => ?_
  split
  · exact drop_sound.bind fun _ => pure_sound _
  · exact pure_sound none

theorem properties_sound : Sound tokens properties := by
  refine anchor?_sound.bind fun anchor => ?_
  split
  · exact tag?_sound.bind fun _ => pure_sound _
  · refine tag?_sound.bind fun tag => ?_
    split
    · exact anchor?_sound.bind fun _ => pure_sound _
    · exact pure_sound _

theorem tagName_sound (tag : Option (Option String × String)) : Sound tokens (tagName tag) := by
  unfold tagName
  split
  · exact pure_sound none
  · exact pure_sound _
  · refine get_sound.bind fun state => ?_
    split
    · exact pure_sound _
    · exact malformed_sound

theorem collection_sound (form : CollectionForm) (anchor : Option String) {parts : Build α}
    (finish : α → Node) (sound : Sound tokens parts) :
    Sound tokens (collection form anchor parts finish) :=
  get_sound.bind fun _ => (setAnchor_sound anchor _).bind fun _ =>
    Sound.bind (modify_sound fun _ => rfl) fun _ => sound.bind fun _ =>
      Sound.bind (modify_sound fun _ => rfl) fun _ => pure_sound (finish _)

theorem sequence_sound (anchor name : Option String) {items : Build (List Node)}
    (sound : Sound tokens items) : Sound tokens (sequence anchor name items) :=
  collection_sound .sequence anchor _ sound

theorem mapping_sound (anchor name : Option String) {entries : Build (List (Node × Node))}
    (sound : Sound tokens entries) : Sound tokens (mapping anchor name entries) :=
  collection_sound .mapping anchor _ sound

end Steps

mutual

theorem node_sound {tokens : List Token} (context : Context) (fuel : Nat) :
    Sound tokens (node context fuel) := by
  match fuel with
  | 0 => exact malformed_sound
  | fuel + 1 =>
    unfold node
    refine peek_sound.bind fun token => ?_
    split
    · exact drop_sound.bind fun _ => reference_sound _
    · refine properties_sound.bind fun properties => (tagName_sound _).bind fun name => ?_
      refine peek_sound.bind fun next => ?_
      split
      · exact drop_sound.bind fun _ => (setAnchor_sound _ _).bind fun _ => pure_sound _
      · exact sequence_sound _ name (drop_sound.bind fun _ => flowItems_sound true fuel)
      · exact mapping_sound _ name (drop_sound.bind fun _ => flowEntries_sound true fuel)
      · exact .ite (fun _ => sequence_sound _ name (indentlessItems_sound fuel)) fun _ =>
          .ite (fun _ => sequence_sound _ name (drop_sound.bind fun _ => blockItems_sound fuel))
            fun _ =>
          .ite (fun _ => mapping_sound _ name (drop_sound.bind fun _ => blockEntries_sound fuel))
            fun _ =>
          .ite (fun _ => (setAnchor_sound _ _).bind fun _ => pure_sound _) fun _ => unexpected_sound

theorem nodeUnless_sound {tokens : List Token} (next : List Token) (context : Context)
    (fuel : Nat) : Sound tokens (nodeUnless next context fuel) := by
  match fuel with
  | 0 => exact malformed_sound
  | fuel + 1 =>
    exact (nextIs_sound next).bind fun _ => .ite (fun _ => pure_sound empty)
      fun _ => node_sound context fuel

theorem blockItems_sound {tokens : List Token} (fuel : Nat) : Sound tokens (blockItems fuel) := by
  match fuel with
  | 0 => exact malformed_sound
  | fuel + 1 =>
    unfold blockItems
    refine (dropIf_sound _).bind fun _ => .ite (fun _ => ?_) fun _ => ?_
    · exact (nodeUnless_sound _ _ fuel).bind fun item => (blockItems_sound fuel).bind fun _ =>
        pure_sound _
    · exact (expect_sound _).bind fun _ => pure_sound []

theorem indentlessItems_sound {tokens : List Token} (fuel : Nat) :
    Sound tokens (indentlessItems fuel) := by
  match fuel with
  | 0 => exact malformed_sound
  | fuel + 1 =>
    unfold indentlessItems
    refine (dropIf_sound _).bind fun _ => .ite (fun _ => ?_) fun _ => pure_sound []
    exact (nodeUnless_sound _ _ fuel).bind fun item => (indentlessItems_sound fuel).bind fun _ =>
      pure_sound _

theorem blockEntries_sound {tokens : List Token} (fuel : Nat) :
    Sound tokens (blockEntries fuel) := by
  match fuel with
  | 0 => exact malformed_sound
  | fuel + 1 =>
    have closed (key value : Node) :
        Sound tokens (do return (key, value) :: (← blockEntries fuel)) :=
      (blockEntries_sound fuel).bind fun _ => pure_sound _
    have valued (key : Node) : Sound tokens (do
        let value ←
          if ← dropIf .value then nodeUnless [.key, .value, .blockEnd] .blockEntry fuel
          else pure empty
        return (key, value) :: (← blockEntries fuel)) :=
      (dropIf_sound _).bind fun _ =>
        .ite (fun _ => (nodeUnless_sound _ _ fuel).bind (closed key)) fun _ => closed key empty
    unfold blockEntries
    refine (dropIf_sound _).bind fun isKey => (nextIs_sound _).bind fun isValue => ?_
    refine .ite (fun _ => (expect_sound _).bind fun _ => pure_sound []) fun _ => ?_
    exact .ite (fun _ => (nodeUnless_sound _ _ fuel).bind valued) fun _ => valued empty

theorem flowItems_sound {tokens : List Token} (first : Bool) (fuel : Nat) :
    Sound tokens (flowItems first fuel) := by
  match fuel with
  | 0 => exact malformed_sound
  | fuel + 1 =>
    have closed (item : Node) : Sound tokens (do return item :: (← flowItems false fuel)) :=
      (flowItems_sound false fuel).bind fun _ => pure_sound _
    unfold flowItems
    refine (dropIf_sound _).bind fun _ => .ite (fun _ => pure_sound []) fun _ => ?_
    refine separated_sound ((dropIf_sound _).bind fun _ =>
      .ite (fun _ => pure_sound []) fun _ => ?_)
    refine (dropIf_sound _).bind fun _ => .ite (fun _ => ?_) fun _ => ?_
    · have single (key value : Node) : Sound tokens (pure [(key, value)]) := pure_sound _
      refine (mapping_sound none none ?_).bind closed
      refine (nodeUnless_sound _ _ fuel).bind fun key => (dropIf_sound _).bind fun _ => ?_
      exact .ite (fun _ => (nodeUnless_sound _ _ fuel).bind (single key)) fun _ => single key empty
    · exact (node_sound .flow fuel).bind closed

theorem flowEntries_sound {tokens : List Token} (first : Bool) (fuel : Nat) :
    Sound tokens (flowEntries first fuel) := by
  match fuel with
  | 0 => exact malformed_sound
  | fuel + 1 =>
    have closed (key value : Node) :
        Sound tokens (do return (key, value) :: (← flowEntries false fuel)) :=
      (flowEntries_sound false fuel).bind fun _ => pure_sound _
    have valued (marked : Bool) (key : Node) : Sound tokens (do
        let value ←
          if marked then
            if ← dropIf .value then nodeUnless [.flowEntry, .flowMappingEnd] .flow fuel
            else pure empty
          else pure empty
        return (key, value) :: (← flowEntries false fuel)) := by
      refine .ite (fun _ => (dropIf_sound _).bind fun _ => ?_) fun _ => closed key empty
      exact .ite (fun _ => (nodeUnless_sound _ _ fuel).bind (closed key)) fun _ => closed key empty
    unfold flowEntries
    refine (dropIf_sound _).bind fun _ => .ite (fun _ => pure_sound []) fun _ => ?_
    refine separated_sound ((dropIf_sound _).bind fun _ =>
      .ite (fun _ => pure_sound []) fun _ => ?_)
    refine (dropIf_sound _).bind fun isKey => (nextIs_sound _).bind fun isValue => ?_
    exact .ite (fun _ => (nodeUnless_sound _ _ fuel).bind (valued _)) fun _ =>
      .ite (fun _ => valued _ empty) fun _ => (node_sound .flow fuel).bind (valued _)

end

section Document

variable {tokens : List Token}

end Document

end Build

end Logicless.Yaml
