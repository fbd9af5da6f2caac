import Logicless.Proofs.Template.TagForm

/-!
The pieces of a template, told by conditions alone: every tag stands where it occurs, no tag starts
inside content, and no two pieces of content are adjacent. Every text has one such segmentation and
no other, and the tokens of a template are its pieces in order.
-/

set_option autoImplicit false

namespace Logicless.Template

namespace Piece

def raw : Piece → List Char
  | .content raw => raw
  | .tag raw => raw

def textOf (pieces : List Piece) : List Char := pieces.flatMap raw

@[simp] theorem textOf_cons (piece : Piece) (pieces : List Piece) :
    textOf (piece :: pieces) = piece.raw ++ textOf pieces := rfl

theorem textOf_append (pieces others : List Piece) :
    textOf (pieces ++ others) = textOf pieces ++ textOf others :=
  List.flatMap_append

end Piece

open Piece

structure Segmentation (text : List Char) (pieces : List Piece) : Prop where
  covers : textOf pieces = text
  filled : ∀ piece ∈ pieces, piece.raw ≠ []
  tags : ∀ before raw behind, pieces = before ++ .tag raw :: behind →
    TagAt text (textOf before).length raw
  plain : ∀ before raw behind, pieces = before ++ .content raw :: behind →
    ∀ index < raw.length, ∀ tag, ¬ TagAt text ((textOf before).length + index) tag
  apart : ∀ before first second behind,
    pieces ≠ before ++ .content first :: .content second :: behind

/-- The conditions on the first piece of a text, with the pieces behind it. -/
def Piece.Leads (text : List Char) (behind : List Piece) : Piece → Prop
  | .tag raw => TagAt text 0 raw
  | .content raw => raw ≠ [] ∧ (∀ index < raw.length, ∀ tag, ¬ TagAt text index tag) ∧
    ∀ other later, behind ≠ .content other :: later

theorem tagAt_append (before text : List Char) (index : Nat) (tag : List Char) :
    TagAt (before ++ text) (before.length + index) tag ↔ TagAt text index tag := by
  unfold TagAt
  rw [← List.drop_drop, List.drop_left]

namespace Segmentation

theorem leads {text : List Char} {piece : Piece} {pieces : List Piece}
    (segmentation : Segmentation text (piece :: pieces)) : piece.Leads text pieces := by
  cases piece with
  | tag raw => exact segmentation.tags [] raw pieces rfl
  | content raw =>
      refine ⟨segmentation.filled _ (List.mem_cons_self ..), ?_, ?_⟩
      · intro index inside tag
        have free := segmentation.plain [] raw pieces rfl index inside tag
        rwa [textOf, List.flatMap_nil, List.length_nil, Nat.zero_add] at free
      · intro other later adjacent
        exact segmentation.apart [] raw other later (by rw [adjacent]; rfl)

/-- Behind its first piece, a segmentation is one of the rest of the text. -/
theorem tail (piece : Piece) {pieces : List Piece} {rest : List Char}
    (segmentation : Segmentation (piece.raw ++ rest) (piece :: pieces)) :
    Segmentation rest pieces := by
  constructor
  · have covers := segmentation.covers
    rwa [textOf_cons, List.append_cancel_left_eq] at covers
  · intro other among
    exact segmentation.filled other (List.mem_cons_of_mem _ among)
  · intro before raw behind split
    have stands := segmentation.tags (piece :: before) raw behind (by rw [split]; rfl)
    rwa [textOf_cons, List.length_append, tagAt_append] at stands
  · intro before raw behind split index inside tag
    have free := segmentation.plain (piece :: before) raw behind (by rw [split]; rfl) index inside tag
    rwa [textOf_cons, List.length_append, Nat.add_assoc, tagAt_append] at free
  · intro before first second behind adjacent
    exact segmentation.apart (piece :: before) first second behind (by rw [adjacent]; rfl)

theorem cons (piece : Piece) {pieces : List Piece} {rest : List Char}
    (leads : piece.Leads (piece.raw ++ rest) pieces) (segmentation : Segmentation rest pieces) :
    Segmentation (piece.raw ++ rest) (piece :: pieces) := by
  constructor
  · rw [textOf_cons, segmentation.covers]
  · intro other among
    rcases List.mem_cons.mp among with rfl | later
    · cases other with
      | tag raw => exact leads.1.ne_nil
      | content raw => exact leads.1
    · exact segmentation.filled other later
  · intro before raw behind split
    cases before with
    | nil =>
        cases split
        exact leads
    | cons first before =>
        cases split
        rw [textOf_cons, List.length_append, tagAt_append]
        exact segmentation.tags before raw behind rfl
  · intro before raw behind split index inside tag
    cases before with
    | nil =>
        cases split
        rw [textOf, List.flatMap_nil, List.length_nil, Nat.zero_add]
        exact leads.2.1 index inside tag
    | cons first before =>
        cases split
        rw [textOf_cons, List.length_append, Nat.add_assoc, tagAt_append]
        exact segmentation.plain before raw behind rfl index inside tag
  · intro before first second behind adjacent
    cases before with
    | nil =>
        cases adjacent
        exact leads.2.2 second behind rfl
    | cons head before =>
        cases adjacent
        exact segmentation.apart before first second behind rfl

theorem nil : Segmentation [] [] := by
  constructor
  · rfl
  · intro piece among
    cases among
  · intro before raw behind split
    cases before <;> cases split
  · intro before raw behind split
    cases before <;> cases split
  · intro before first second behind split
    cases before <;> cases split

/-- A segmentation of no text has no pieces. -/
theorem eq_nil {pieces : List Piece} (segmentation : Segmentation [] pieces) : pieces = [] := by
  cases pieces with
  | nil => rfl
  | cons piece rest =>
      have covers := segmentation.covers
      rw [textOf_cons, List.append_eq_nil_iff] at covers
      exact absurd covers.1 (segmentation.filled piece (List.mem_cons_self ..))

/-- Content reaches as far as any other content at the same place: behind it the text ends or a
tag starts. -/
theorem content_reaches {first second firstRest secondRest : List Char}
    {behindFirst behindSecond : List Piece} (same : first ++ firstRest = second ++ secondRest)
    (one : Segmentation (first ++ firstRest) (.content first :: behindFirst))
    (other : Segmentation (second ++ secondRest) (.content second :: behindSecond)) :
    second.length ≤ first.length := by
  have behind : Segmentation firstRest behindFirst := one.tail (.content first)
  apply Nat.le_of_not_lt
  intro shorter
  cases behindFirst with
  | nil =>
      have covers := behind.covers
      cases covers
      have lengths := congrArg List.length same
      simp only [List.length_append, textOf, List.flatMap_nil, List.length_nil] at lengths
      omega
  | cons piece later =>
      cases piece with
      | content raw => exact one.leads.2.2 raw later rfl
      | tag raw =>
          have stands := (tagAt_append first firstRest 0 raw).mpr behind.leads
          rw [same] at stands
          exact other.leads.2.1 first.length shorter raw stands

/-- Two segmentations of a text start with the same piece. -/
theorem first_eq {piece otherPiece : Piece} {rest otherRest : List Char}
    {behind otherBehind : List Piece} (same : piece.raw ++ rest = otherPiece.raw ++ otherRest)
    (one : Segmentation (piece.raw ++ rest) (piece :: behind))
    (other : Segmentation (otherPiece.raw ++ otherRest) (otherPiece :: otherBehind)) :
    piece = otherPiece := by
  cases piece with
  | tag raw =>
      cases otherPiece with
      | tag otherRaw =>
          have stands := other.leads
          rw [← same] at stands
          rw [TagAt.eq one.leads stands]
      | content otherRaw =>
          obtain ⟨filled, free, _⟩ := other.leads
          rw [← same] at free
          exact absurd one.leads (free 0 (List.length_pos_iff.mpr filled) raw)
  | content raw =>
      cases otherPiece with
      | tag otherRaw =>
          obtain ⟨filled, free, _⟩ := one.leads
          rw [same] at free
          exact absurd other.leads (free 0 (List.length_pos_iff.mpr filled) otherRaw)
      | content otherRaw =>
          have lengths := Nat.le_antisymm (content_reaches same.symm other one)
            (content_reaches same one other)
          have raws : raw = otherRaw := (List.append_inj same lengths).1
          rw [raws]

/-- A text has at most one segmentation. -/
theorem unique {text : List Char} {pieces others : List Piece}
    (one : Segmentation text pieces) (other : Segmentation text others) : pieces = others := by
  induction pieces generalizing text others with
  | nil =>
      cases one.covers
      exact other.eq_nil.symm
  | cons piece rest ih =>
      cases others with
      | nil =>
          cases other.covers
          exact one.eq_nil
      | cons otherPiece otherRest =>
          have same : piece.raw ++ textOf rest = otherPiece.raw ++ textOf otherRest :=
            one.covers.trans other.covers.symm
          obtain rfl := one.covers
          rw [textOf_cons] at one other
          have firsts : piece = otherPiece := by
            rw [same] at other
            exact first_eq same one other
          subst firsts
          rw [ih (one.tail piece) (other.tail piece)]

end Segmentation

/-! The pieces that are cut -/

/-- The characters of a tag that is already cut are passed over. -/
theorem cut_skip (skip : Nat) (gathered cs : List Char) :
    cut skip gathered cs = cut 0 gathered (cs.drop skip) := by
  induction skip generalizing cs with
  | zero => rfl
  | succ skip ih =>
      cases cs with
      | nil => rfl
      | cons c rest => rw [cut, ih, List.drop_succ_cons]

theorem cut_tag {raw : List Char} (tag : IsTag raw) (gathered rest : List Char) :
    cut 0 gathered (raw ++ rest) = Piece.flush gathered (.tag raw :: cut 0 [] rest) := by
  have found : tagAt? (raw ++ rest) = some raw :=
    tagAt?_eq_some_iff.mpr ⟨tag, List.prefix_append _ _⟩
  cases raw with
  | nil => exact absurd rfl tag.ne_nil
  | cons c inside =>
      rw [List.cons_append] at found ⊢
      rw [cut]
      simp only [found, List.length_cons, Nat.add_sub_cancel]
      rw [cut_skip, List.drop_left]

theorem cut_plain {c : Char} {rest : List Char} (none : tagAt? (c :: rest) = none)
    (gathered : List Char) : cut 0 gathered (c :: rest) = cut 0 (c :: gathered) rest := by
  rw [cut]
  simp only [none]

/-- Content without tags in front of pieces that do not start with content. -/
theorem segmentation_flush {gathered rest : List Char} {pieces : List Piece}
    (free : ∀ index < gathered.length, ∀ tag, ¬ TagAt (gathered.reverse ++ rest) index tag)
    (apart : ∀ other later, pieces ≠ .content other :: later)
    (segmentation : Segmentation rest pieces) :
    Segmentation (gathered.reverse ++ rest) (Piece.flush gathered pieces) := by
  cases gathered with
  | nil => exact segmentation
  | cons c before =>
      have filled : (c :: before).reverse ≠ [] := by simp
      rw [← List.length_reverse] at free
      exact Segmentation.cons (.content (c :: before).reverse) ⟨filled, free, apart⟩
        segmentation

/-- What is cut is a segmentation of the text that was gathered and the text ahead. The invariant
is that no tag starts in the gathered text. -/
theorem segmentation_cut (cs gathered : List Char)
    (free : ∀ index < gathered.length, ∀ tag, ¬ TagAt (gathered.reverse ++ cs) index tag) :
    Segmentation (gathered.reverse ++ cs) (cut 0 gathered cs) := by
  match cs with
  | [] => exact segmentation_flush free nofun .nil
  | c :: rest =>
      cases found : tagAt? (c :: rest) with
      | none =>
          rw [cut_plain found]
          have moved : gathered.reverse ++ c :: rest = (c :: gathered).reverse ++ rest := by
            rw [List.reverse_cons, List.append_assoc, List.singleton_append]
          rw [moved] at free ⊢
          apply segmentation_cut rest (c :: gathered)
          intro index inside tag stands
          rw [List.length_cons, Nat.lt_succ_iff_lt_or_eq] at inside
          rcases inside with before | rfl
          · exact free index before tag stands
          · rw [← moved, ← List.length_reverse, ← Nat.add_zero gathered.reverse.length,
              tagAt_append] at stands
            have first := tagAt?_eq_some_iff.mpr stands
            rw [List.drop_zero, found] at first
            cases first
      | some raw =>
          obtain ⟨tag, behind, split⟩ := tagAt?_eq_some_iff.mp found
          have shorter : behind.length < (c :: rest).length := by
            have positive := List.length_pos_iff.mpr tag.ne_nil
            rw [← split, List.length_append]
            omega
          rw [← split] at free ⊢
          rw [cut_tag tag]
          refine segmentation_flush free nofun ?_
          have later := segmentation_cut behind [] nofun
          exact Segmentation.cons (.tag raw) ⟨tag, List.prefix_append _ _⟩ later
termination_by cs.length
decreasing_by
  · exact Nat.lt_succ_self _
  · exact shorter

/-- The first of three braces in front of a name is content if only two stand behind it. -/
example : cut 0 [] "\x7b\x7b\x7bx\x7d\x7d".toList =
    [.content ['{'], .tag ['{', '{', 'x', '}', '}']] := by decide

end Logicless.Template
