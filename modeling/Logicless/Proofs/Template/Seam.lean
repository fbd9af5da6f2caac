import Logicless.Proofs.Template.Marks

/-!
Cutting two texts that stand one behind the other. Where no tag crosses the seam, the pieces of the
whole are the pieces of the first text and those of the second, but for content on both sides of
the seam, which is one piece of the whole.
-/

set_option autoImplicit false

namespace Logicless.Template

open Text Piece

namespace Piece

/-- No tag among the pieces starts before a place in their text and ends behind it. -/
def Uncrossed (seam : Nat) (pieces : List Piece) : Prop :=
  ∀ before raw behind, pieces = before ++ .tag raw :: behind →
    ¬ ((textOf before).length < seam ∧ seam < (textOf before).length + raw.length)

/-- Pieces in a row with others, where content on both sides of the seam becomes one piece. -/
def Joined (first second pieces : List Piece) : Prop :=
  pieces = first ++ second ∨
    ∃ before left right behind, first = before ++ [.content left] ∧
      second = .content right :: behind ∧ pieces = before ++ .content (left ++ right) :: behind

theorem Joined.cons {first second pieces : List Piece} (joined : Joined first second pieces)
    (piece : Piece) : Joined (piece :: first) second (piece :: pieces) := by
  rcases joined with rfl | ⟨before, left, right, behind, rfl, rfl, rfl⟩
  · exact .inl rfl
  · exact .inr ⟨piece :: before, left, right, behind, rfl, rfl, rfl⟩

/-- Content on the left of the seam is, or starts, the first piece of the whole. -/
theorem Joined.starts_with_content {left : List Char} {first second pieces : List Piece}
    (joined : Joined (.content left :: first) second pieces) :
    ∃ raw later, pieces = .content raw :: later := by
  rcases joined with rfl | ⟨before, last, right, behind, split, rfl, rfl⟩
  · exact ⟨_, _, rfl⟩
  · cases before with
    | nil => exact ⟨_, _, rfl⟩
    | cons piece before =>
        cases split
        exact ⟨_, _, rfl⟩

theorem Uncrossed.tail {seam : Nat} {piece : Piece} {pieces : List Piece}
    (uncrossed : Uncrossed (piece.raw.length + seam) (piece :: pieces)) : Uncrossed seam pieces := by
  rintro before raw behind rfl ⟨starts, ends⟩
  apply uncrossed (piece :: before) raw behind rfl
  rw [textOf_cons, List.length_append]
  omega

end Piece

/-- What leads a whole text leads also a first part of it that does not end in that piece. -/
theorem Piece.Leads.of_joined {piece : Piece} {text behind : List Char}
    {first second pieces : List Piece} (leads : piece.Leads (piece.raw ++ text ++ behind) pieces)
    (joined : Joined first second pieces) : piece.Leads (piece.raw ++ text) first := by
  cases piece with
  | tag raw => exact ⟨leads.1, List.prefix_append raw text⟩
  | content raw =>
      obtain ⟨filled, free, apart⟩ := leads
      refine ⟨filled, fun index inside tag stands => free index inside tag (stands.append_right behind),
        ?_⟩
      rintro left later rfl
      obtain ⟨whole, others, starts⟩ := joined.starts_with_content
      exact apart whole others starts

/-- Content that crosses the seam is cut there. -/
theorem Segmentation.split_content {left right : List Char} {pieces : List Piece}
    (leftFilled : left ≠ []) (rightFilled : right ≠ [])
    (segmentation : Segmentation (left ++ right ++ textOf pieces) (.content (left ++ right) :: pieces)) :
    Segmentation left [.content left] ∧ Segmentation (right ++ textOf pieces) (.content right :: pieces) := by
  obtain ⟨-, free, apart⟩ := segmentation.leads
  rw [List.length_append, List.append_assoc] at free
  constructor
  · have leads : (Piece.content left).Leads (left ++ []) [] := by
      refine ⟨leftFilled, ?_, nofun⟩
      intro index inside tag stands
      rw [List.append_nil] at stands
      exact free index (by omega) tag (stands.append_right _)
    have whole := Segmentation.cons (.content left) leads .nil
    rwa [Piece.raw, List.append_nil] at whole
  · refine Segmentation.cons (.content right) ⟨rightFilled, ?_, apart⟩ (segmentation.tail (.content _))
    intro index inside tag stands
    exact free (left.length + index) (by omega) tag ((tagAt_append left _ index tag).mpr stands)

/-- A segmentation of a whole text without a tag across the seam is made of those of its parts. -/
theorem Segmentation.split {first second : List Char} {pieces : List Piece}
    (segmentation : Segmentation (first ++ second) pieces)
    (uncrossed : Uncrossed first.length pieces) :
    ∃ before behind, Segmentation first before ∧ Segmentation second behind ∧
      Joined before behind pieces := by
  induction pieces generalizing first with
  | nil =>
      obtain ⟨rfl, rfl⟩ := List.append_eq_nil_iff.mp segmentation.covers.symm
      exact ⟨[], [], .nil, .nil, .inl rfl⟩
  | cons piece rest ih =>
      by_cases empty : first = []
      · subst empty
        exact ⟨[], piece :: rest, .nil, segmentation, .inl rfl⟩
      have covers : piece.raw ++ textOf rest = first ++ second := segmentation.covers
      by_cases within : piece.raw.length ≤ first.length
      · -- The seam lies behind the first piece.
        obtain ⟨text, rfl⟩ : piece.raw <+: first :=
          List.prefix_of_prefix_length_le ⟨_, covers⟩ (List.prefix_append first second) within
        have leads := segmentation.leads
        rw [List.append_assoc] at segmentation
        rw [List.length_append] at uncrossed
        obtain ⟨before, behind, one, other, joined⟩ := ih (segmentation.tail piece) uncrossed.tail
        exact ⟨piece :: before, behind, .cons piece (leads.of_joined joined) one, other,
          joined.cons piece⟩
      · -- The seam lies inside the first piece, which is content.
        obtain ⟨right, crossing⟩ : first <+: piece.raw :=
          List.prefix_of_prefix_length_le (List.prefix_append first second) ⟨_, covers⟩ (by omega)
        have rightFilled : right ≠ [] := by
          rintro rfl
          rw [List.append_nil] at crossing
          exact within (Nat.le_of_eq (by rw [crossing]))
        cases piece with
        | tag raw =>
            have ends : first.length < 0 + raw.length := by
              rw [Piece.raw] at within
              omega
            exact absurd ⟨List.length_pos_iff.mpr empty, ends⟩ (uncrossed [] raw rest rfl)
        | content raw =>
            obtain rfl : first ++ right = raw := crossing
            rw [Piece.raw, List.append_assoc, List.append_cancel_left_eq] at covers
            subst covers
            rw [← List.append_assoc] at segmentation
            obtain ⟨one, other⟩ := segmentation.split_content empty rightFilled
            exact ⟨[.content first], .content right :: rest, one, other,
              .inr ⟨[], first, right, rest, rfl, rfl, rfl⟩⟩

/-- No tag among the tokens starts before a place in the text and ends behind it. -/
def Token.Uncrossed (seam : Nat) (tokens : List Token) : Prop :=
  ∀ token ∈ tokens, token.kind ≠ .content →
    ¬ (token.place.offset < seam ∧ seam < token.place.offset + token.raw.length)

/-- Tags that do not cross the seam as tokens do not cross it as pieces. -/
theorem uncrossed_cut {template : String} {tokens : List Token} {seam : Nat}
    (made : tokenize template = .ok tokens) (uncrossed : Token.Uncrossed seam tokens) :
    Uncrossed seam (cut 0 [] template.toList) := by
  obtain ⟨_, same, all⟩ := tokenize_allCutFrom template
  obtain rfl := Except.ok.inj (made.symm.trans same)
  intro before raw behind split crosses
  rw [← all.pieces] at split
  obtain ⟨front, rest, rfl, rfl, atSeam⟩ := List.map_eq_append_iff.mp split
  obtain ⟨token, later, rfl, tag, -⟩ := List.map_eq_cons_iff.mp atSeam
  have inTag : token.kind ≠ .content := by
    intro content
    rw [Token.piece, if_pos content] at tag
    cases tag
  rw [Token.piece_of_tag inTag, Piece.tag.injEq] at tag
  refine uncrossed token (List.mem_append_right _ List.mem_cons_self) inTag ?_
  rw [all.places front token later rfl, Place.advance_offset, Text.Place.start, Nat.zero_add,
    ← String.length_toList, tag]
  exact crosses

/-- What the tokens of a whole say, where no tag crosses the seam: what those of the parts say, but
for content on both sides of the seam, which is one. -/
theorem marks_tokenize_append {first second : String} {tokens before behind : List Token}
    (whole : tokenize (first ++ second) = .ok tokens)
    (uncrossed : Token.Uncrossed first.length tokens)
    (one : tokenize first = .ok before) (other : tokenize second = .ok behind) :
    tokens.map Token.mark = before.map Token.mark ++ behind.map Token.mark ∨
      ∃ front left right rest, before.map Token.mark = front ++ [(.content, left)] ∧
        behind.map Token.mark = (.content, right) :: rest ∧
        tokens.map Token.mark = front ++ (.content, left ++ right) :: rest := by
  have pieces := segmentation_of_cut (first ++ second).toList
  have free := uncrossed_cut whole uncrossed
  rw [String.toList_append] at pieces free
  rw [← String.length_toList] at free
  obtain ⟨firstPieces, secondPieces, inFirst, inSecond, joined⟩ := pieces.split free
  obtain rfl := inFirst.unique (segmentation_of_cut first.toList)
  obtain rfl := inSecond.unique (segmentation_of_cut second.toList)
  rw [Token.marks_of_ofPieces whole, Token.marks_of_ofPieces one, Token.marks_of_ofPieces other,
    String.toList_append]
  rcases joined with apart | ⟨front, left, right, rest, firstSplit, secondSplit, merged⟩
  · rw [apart]
    exact .inl List.filterMap_append
  · rw [firstSplit, secondSplit, merged]
    refine .inr ⟨front.filterMap mark?, String.ofList left, String.ofList right,
      rest.filterMap mark?, ?_, rfl, ?_⟩
    · rw [List.filterMap_append]
      rfl
    · rw [List.filterMap_append, ← String.ofList_append]
      rfl

end Logicless.Template
