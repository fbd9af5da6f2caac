import Logicless.Proofs.Template.Marks

/-!
Cutting a text that is put together from tags and content. If no tag starts inside of content, the
tags are cut as they were put in, and content between them as one piece. Where braces stand behind
content, a tag that starts in the content lies inside of it, or the content ends in the first of three
opening braces whose third closing one stands behind the others.
-/

set_option autoImplicit false

namespace Logicless.Template

open Text Piece

/-! Content in front of braces -/

/-- A text between braces, whatever it is. -/
def fence (width : Nat) (inner : List Char) : List Char :=
  run width '{' ++ (inner ++ run width '}')

theorem fence_append (width : Nat) (inner behind : List Char) :
    fence width inner ++ behind = run width '{' ++ (inner ++ (run width '}' ++ behind)) := by
  rw [fence, List.append_assoc, List.append_assoc]

theorem fence_ne_nil {width : Nat} (wide : 0 < width) {inner : List Char} :
    fence width inner ≠ [] := by
  obtain ⟨width, rfl⟩ := Nat.exists_eq_succ_of_ne_zero (Nat.ne_of_gt wide)
  exact List.cons_ne_nil _ _

theorem FencedBy.eq_fence {width : Nat} {inside raw : List Char} (fenced : FencedBy width inside raw) :
    raw = fence width inside := by
  rw [fenced.form, fence, List.append_assoc]

theorem fencedBy_fence {width : Nat} {inside : List Char} (nonempty : inside ≠ [])
    (bare : Bare inside) : FencedBy width inside (fence width inside) :=
  ⟨nonempty, bare, (List.append_assoc ..).symm⟩

/-- The number of equal characters that a text starts with is certain. -/
theorem run_append_inj {c : Char} {first second : Nat} {rest others : List Char}
    (restHead : rest.head? ≠ some c) (othersHead : others.head? ≠ some c)
    (same : run first c ++ rest = run second c ++ others) : first = second ∧ rest = others := by
  induction first generalizing second with
  | zero =>
      cases second with
      | zero => exact ⟨rfl, same⟩
      | succ second => exact absurd (congrArg List.head? same) restHead
  | succ first ih =>
      cases second with
      | zero => exact absurd (congrArg List.head? same).symm othersHead
      | succ second =>
          rw [run, run, List.replicate_succ, List.replicate_succ, List.cons_append, List.cons_append,
            List.cons.injEq] at same
          obtain ⟨counts, rests⟩ := ih same.2
          exact ⟨congrArg Nat.succ counts, rests⟩

/-- Behind the opening braces of a fence there is no further one. -/
theorem head?_behind_braces {width : Nat} (wide : 0 < width) {inner : List Char} (bare : Bare inner)
    (behind : List Char) : (inner ++ (run width '}' ++ behind)).head? ≠ some '{' := by
  cases inner with
  | nil =>
      obtain ⟨width, rfl⟩ := Nat.exists_eq_succ_of_ne_zero (Nat.ne_of_gt wide)
      intro opened
      cases opened
  | cons c later =>
      intro opened
      cases opened
      exact (bare '{' List.mem_cons_self).1 rfl

/-- A text that starts with a fence has as many opening braces as the fence, and then the same. -/
theorem fence_append_inj {extra first second : Nat} (firstWide : 0 < first) (secondWide : 0 < second)
    {inside inner rest others : List Char} (insideBare : Bare inside) (innerBare : Bare inner)
    (same : run extra '{' ++ (inside ++ (run first '}' ++ rest)) = fence second inner ++ others) :
    extra = second ∧ inside = inner ∧ run first '}' ++ rest = run second '}' ++ others := by
  rw [fence_append] at same
  obtain ⟨widths, same⟩ := run_append_inj (head?_behind_braces firstWide insideBare rest)
    (head?_behind_braces secondWide innerBare others) same
  have insides : inside = inner := by
    rw [← takeWhile_inside firstWide insideBare rest, same, takeWhile_inside secondWide innerBare]
  rw [insides, List.append_cancel_left_eq] at same
  exact ⟨widths, insides, same⟩

/-- A tag is a fence around one or more characters. -/
theorem IsTag.eq_fence {raw : List Char} (tag : IsTag raw) :
    ∃ width inside, (width = 2 ∨ width = 3) ∧ inside ≠ [] ∧ Bare inside ∧
      raw = fence width inside := by
  obtain ⟨inside, two | three⟩ := tag
  · exact ⟨2, inside, .inl rfl, two.nonempty, two.bare, two.eq_fence⟩
  · exact ⟨3, inside, .inr rfl, three.nonempty, three.bare, three.eq_fence⟩

/-- Characters of a fence in front of an opening brace are opening braces. -/
theorem opening_of_fence {width : Nat} {inside front more : List Char} (bare : Bare inside)
    (split : fence width inside = front ++ '{' :: more) :
    ∃ count extra, front = run count '{' ∧ width = count + extra ∧
      '{' :: more = run extra '{' ++ (inside ++ run width '}') := by
  rw [fence] at split
  rcases List.append_eq_append_iff.mp split with ⟨later, -, rest⟩ | ⟨later, braces, rest⟩
  · have among : '{' ∈ inside ++ run width '}' := by
      rw [rest]
      exact List.mem_append_right _ List.mem_cons_self
    rcases List.mem_append.mp among with inInside | inBraces
    · exact absurd rfl (bare '{' inInside).1
    · exact absurd (List.eq_of_mem_replicate inBraces) (by decide)
  · obtain ⟨lengths, fronts, laters⟩ := List.append_eq_replicate_iff.mp braces.symm
    exact ⟨front.length, later.length, fronts, lengths.symm, rest.trans (congrArg (· ++ _) laters)⟩

/-- A tag that starts in content in front of a fence stands inside the content, or the last character
of the content is the first of its three braces. -/
theorem TagAt.before_fence {content inner behind tag : List Char} {width index : Nat}
    (wide : 2 ≤ width) (bare : Bare inner) (starts : index < content.length)
    (stands : TagAt (content ++ (fence width inner ++ behind)) index tag) :
    TagAt content index tag ∨
      content.drop index = ['{'] ∧ width = 2 ∧ inner ≠ [] ∧ ∃ later, behind = '}' :: later := by
  obtain ⟨isTag, tagBehind, split⟩ := stands
  rw [List.drop_append_of_le_length (Nat.le_of_lt starts)] at split
  rcases List.append_eq_append_iff.mp split with ⟨more, front, -⟩ | ⟨more, front, rest⟩
  · exact .inl ⟨isTag, more, front.symm⟩
  cases more with
  | nil =>
      rw [List.append_nil] at front
      exact .inl ⟨isTag, [], by rw [front, List.append_nil]⟩
  | cons c more =>
      obtain ⟨ownWidth, inside, twoOrThree, filled, insideBare, rfl⟩ := isTag.eq_fence
      obtain ⟨width, rfl⟩ := Nat.exists_eq_add_of_le' wide
      obtain rfl : '{' = c := (List.cons.inj rest).1
      obtain ⟨count, extra, fronts, widths, mores⟩ := opening_of_fence insideBare front
      have counted : 0 < count := by
        have length := congrArg List.length fronts
        rw [List.length_drop, List.length_replicate] at length
        omega
      rw [mores, List.append_assoc, List.append_assoc] at rest
      obtain ⟨extras, rfl, closing⟩ :=
        fence_append_inj (by omega) (by omega) insideBare bare rest.symm
      obtain ⟨rfl, rfl, rfl⟩ : ownWidth = 3 ∧ count = 1 ∧ width = 0 := by omega
      have closed : run 2 '}' ++ '}' :: tagBehind = run 2 '}' ++ behind := closing
      exact .inr ⟨fronts, rfl, filled, tagBehind, (List.append_cancel_left closed).symm⟩

/-- No tag starts inside braces around nothing. -/
theorem not_tagAt_empty_fence {width index : Nat} {behind tag : List Char} (wide : 0 < width)
    (starts : index < (fence width []).length) : ¬ TagAt (fence width [] ++ behind) index tag := by
  rintro ⟨isTag, tagBehind, split⟩
  obtain ⟨ownWidth, inside, twoOrThree, filled, bare, rfl⟩ := isTag.eq_fence
  rw [fence_append width, List.nil_append] at split
  rw [fence, List.nil_append, List.length_append, List.length_replicate, List.length_replicate]
    at starts
  rcases Nat.lt_or_ge index width with opening | closing
  · rw [List.drop_append_of_le_length (by rw [List.length_replicate]; omega), List.drop_replicate,
      ← List.nil_append (run width '}' ++ behind)] at split
    obtain ⟨-, rfl, -⟩ := fence_append_inj wide (by omega) (List.forall_mem_nil _) bare split.symm
    exact filled rfl
  · have opened : (run width '{' ++ (run width '}' ++ behind))[index]? = some '{' := by
      rw [← List.head?_drop, ← split]
      rcases twoOrThree with rfl | rfl <;> rfl
    rw [List.getElem?_append_right (by rwa [List.length_replicate]), List.length_replicate,
      List.getElem?_append_left (by rw [List.length_replicate]; omega),
      List.getElem?_replicate_of_lt (by omega)] at opened
    exact absurd (Option.some.inj opened) (by decide)

/-! Pieces that are cut again -/

namespace Piece

def tag? : Piece → Option (List Char)
  | .content _ => none
  | .tag raw => some raw

/-- What a tag says; content says nothing. -/
def tagMark? (piece : Piece) : Option (TokenKind × String) :=
  piece.tag?.bind fun raw => (Piece.tag raw).mark?

theorem filterMap_tagMark? (pieces : List Piece) :
    pieces.filterMap tagMark? = (pieces.filterMap tag?).filterMap fun raw => (Piece.tag raw).mark? :=
  List.filterMap_filterMap.symm

/-- Pieces in a row such that no tag starts inside of content. Content may be empty, and may be
adjacent to other content. -/
inductive Loose : List Piece → Prop
  | nil : Loose []
  | tag {raw : List Char} {rest : List Piece} (tag : IsTag raw) (loose : Loose rest) :
      Loose (.tag raw :: rest)
  | content {raw : List Char} {rest : List Piece}
      (free : ∀ index < raw.length, ∀ tag, ¬ TagAt (raw ++ textOf rest) index tag)
      (loose : Loose rest) : Loose (.content raw :: rest)

end Piece

/-- Where no tag starts inside of a text, it is gathered. -/
theorem cut_free {raw rest : List Char}
    (free : ∀ index < raw.length, ∀ tag, ¬ TagAt (raw ++ rest) index tag) (gathered : List Char) :
    cut 0 gathered (raw ++ rest) = cut 0 (raw.reverse ++ gathered) rest := by
  induction raw generalizing gathered with
  | nil => rfl
  | cons c raw ih =>
      have none : tagAt? (c :: (raw ++ rest)) = none := by
        apply Option.eq_none_iff_forall_ne_some.mpr
        intro tag found
        exact free 0 (Nat.succ_pos _) tag (tagAt?_eq_some_iff.mp found)
      have later : ∀ index < raw.length, ∀ tag, ¬ TagAt (raw ++ rest) index tag :=
        fun index inside tag stands => free (index + 1) (Nat.succ_lt_succ inside) tag stands
      rw [List.cons_append, cut_plain none, ih later, List.reverse_cons, List.append_assoc,
        List.singleton_append]

theorem tags_flush (gathered : List Char) (pieces : List Piece) :
    (flush gathered pieces).filterMap tag? = pieces.filterMap tag? := by
  unfold flush
  split <;> rfl

/-- The tags of loose pieces are the tags that are cut. -/
theorem Piece.Loose.tags_cut {pieces : List Piece} (loose : Loose pieces) (gathered : List Char) :
    (cut 0 gathered (textOf pieces)).filterMap tag? = pieces.filterMap tag? := by
  induction loose generalizing gathered with
  | nil => exact tags_flush gathered []
  | @tag raw rest tag loose ih =>
      rw [textOf_cons, Piece.raw, cut_tag tag, tags_flush]
      exact congrArg (raw :: ·) (ih [])
  | content free loose ih =>
      rw [textOf_cons, Piece.raw, cut_free free, ih]
      rfl

theorem apart_of_cons {piece : Piece} {pieces : List Piece}
    (apart : ∀ before first second behind,
      piece :: pieces ≠ before ++ .content first :: .content second :: behind) :
    ∀ before first second behind,
      pieces ≠ before ++ .content first :: .content second :: behind :=
  fun before first second behind split =>
    apart (piece :: before) first second behind (congrArg (piece :: ·) split)

/-- Loose pieces are the pieces that are cut if none is empty and no two of content are adjacent. -/
theorem Piece.Loose.cut_eq {pieces : List Piece} (loose : Loose pieces)
    (filled : ∀ piece ∈ pieces, piece.raw ≠ [])
    (apart : ∀ before first second behind,
      pieces ≠ before ++ .content first :: .content second :: behind) :
    cut 0 [] (textOf pieces) = pieces := by
  suffices segmentation : Segmentation (textOf pieces) pieces from
    (segmentation_of_cut _).unique segmentation
  induction loose with
  | nil => exact .nil
  | @tag raw rest tag loose ih =>
      have later := ih (fun piece among => filled piece (List.mem_cons_of_mem _ among))
        (apart_of_cons apart)
      exact later.cons (.tag raw) ⟨tag, List.prefix_append _ _⟩
  | @content raw rest free loose ih =>
      have later := ih (fun piece among => filled piece (List.mem_cons_of_mem _ among))
        (apart_of_cons apart)
      refine later.cons (.content raw) ⟨filled _ List.mem_cons_self, free, ?_⟩
      rintro other behind rfl
      exact apart [] raw other behind rfl

end Logicless.Template
