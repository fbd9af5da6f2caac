import Logicless.Proofs.Template.Coordinates
import Logicless.Proofs.Template.Seam

/-!
Tokens on both sides of a seam. Behind another text, a text is cut into the same tokens at places that
are moved on: by the characters and the line feeds of the text before, and on its own first line by
the last line of that text. The tokens of two texts in a row are those of the first and the moved ones
of the second, with content on both sides of the seam as one token, exactly where no tag crosses the
seam.
-/

set_option autoImplicit false

namespace Logicless

namespace Text.Place

/-- A place in a text, counted from the start of a text before it. -/
def behind (before : List Char) (place : Place) : Place :=
  ⟨before.length + place.offset, before.count '\n' + place.line,
    if place.line = 1 then (lastLine before).length + place.column else place.column⟩

theorem behind_start (before : List Char) : start.behind before = endOf before := by
  rw [behind, endOf, Place.mk.injEq]
  exact ⟨rfl, Nat.add_comm .., Nat.add_comm ..⟩

theorem step_line_pos {place : Place} (counted : 0 < place.line) (c : Char) :
    0 < (place.step c).line := by
  unfold step
  split
  · exact Nat.succ_pos _
  · exact counted

/-- A line feed starts a line that the text before has no part in. -/
theorem step_behind {place : Place} (counted : 0 < place.line) (before : List Char) (c : Char) :
    (place.behind before).step c = (place.step c).behind before := by
  by_cases feed : c = '\n'
  · subst feed
    have later : place.line + 1 ≠ 1 := by omega
    simp only [step, behind, if_true, if_neg later, Nat.add_assoc]
  · simp only [step, behind, if_neg feed, Nat.add_assoc]
    by_cases firstLine : place.line = 1
    · rw [if_pos firstLine, if_pos firstLine, Nat.add_assoc]
    · rw [if_neg firstLine, if_neg firstLine]

theorem advance_line_pos {place : Place} (counted : 0 < place.line) (consumed : List Char) :
    0 < (place.advance consumed).line := by
  rw [advance_eq]
  exact Nat.add_pos_left counted _

theorem advance_behind {place : Place} (counted : 0 < place.line) (before consumed : List Char) :
    (place.behind before).advance consumed = (place.advance consumed).behind before := by
  induction consumed generalizing place with
  | nil => rfl
  | cons c rest ih =>
      rw [advance_cons, advance_cons, step_behind counted, ih (step_line_pos counted c)]

end Text.Place

namespace Template

open Text Piece

namespace Token

def behind (before : List Char) (token : Token) : Token :=
  { token with place := token.place.behind before }

/-- Tokens in a row with others, where content on both sides of the seam becomes one token at the
place of its left part. -/
def joined (first second : List Token) : List Token :=
  match first.getLast?, second with
  | some left, right :: rest =>
    if left.kind = .content ∧ right.kind = .content then
      first.dropLast ++
        { left with value := left.value ++ right.value, raw := left.raw ++ right.raw } :: rest
    else first ++ second
  | _, _ => first ++ second

theorem joined_concat_cons (front : List Token) (left right : Token) (rest : List Token) :
    joined (front ++ [left]) (right :: rest) =
      if left.kind = .content ∧ right.kind = .content then
        front ++ { left with value := left.value ++ right.value, raw := left.raw ++ right.raw } :: rest
      else front ++ [left] ++ right :: rest := by
  unfold joined
  simp only [List.getLast?_concat, List.dropLast_concat]

/-- Tokens are joined as they stand, or one token is made of content on both sides of the seam. -/
theorem joined_cases (first second : List Token) :
    joined first second = first ++ second ∨
      ∃ front left right rest, first = front ++ [left] ∧ second = right :: rest ∧
        (left.kind = .content ∧ right.kind = .content) ∧
        joined first second =
          front ++ { left with value := left.value ++ right.value, raw := left.raw ++ right.raw } ::
            rest := by
  rcases List.eq_nil_or_concat first with rfl | ⟨front, left, rfl⟩
  · exact .inl rfl
  · rw [List.concat_eq_append]
    cases second with
    | nil =>
        left
        unfold joined
        rw [List.append_nil]
        split
        · rename_i impossible
          cases impossible
        · rfl
    | cons right rest =>
        by_cases both : left.kind = .content ∧ right.kind = .content
        · refine .inr ⟨front, left, right, rest, rfl, rfl, both, ?_⟩
          rw [joined_concat_cons, if_pos both]
        · left
          rw [joined_concat_cons, if_neg both]

/-- A tag of the whole is a tag of one of its parts. -/
theorem mem_of_mem_joined {first second : List Token} {token : Token}
    (among : token ∈ joined first second) (tag : token.kind ≠ .content) :
    token ∈ first ∨ token ∈ second := by
  rcases joined_cases first second with apart | ⟨front, left, right, rest, rfl, rfl, both, merged⟩
  · rw [apart] at among
    exact List.mem_append.mp among
  · rw [merged] at among
    rcases List.mem_append.mp among with inFront | inRest
    · exact .inl (List.mem_append_left _ inFront)
    · rcases List.mem_cons.mp inRest with rfl | later
      · exact absurd both.1 tag
      · exact .inr (List.mem_cons_of_mem _ later)

/-- Moved on, a piece gives the token that is moved on. -/
theorem ofPiece_behind (before : List Char) {place : Place} {piece : Piece} {token : Token}
    (made : ofPiece place piece = .ok token) :
    ofPiece (place.behind before) piece = .ok (token.behind before) := by
  cases piece with
  | content raw =>
      cases made
      rfl
  | tag raw =>
      rw [ofPiece, ofTag] at made ⊢
      cases classified : classifyTag? raw with
      | none =>
          rw [classified] at made
          cases made
      | some found =>
          rw [classified] at made
          cases made
          rfl

theorem ofPieces_behind (before : List Char) {place : Place} (counted : 0 < place.line)
    {pieces : List Piece} {tokens : List Token} (made : ofPieces place pieces = .ok tokens) :
    ofPieces (place.behind before) pieces = .ok (tokens.map (behind before)) := by
  induction pieces generalizing place tokens with
  | nil =>
      cases made
      rfl
  | cons piece rest ih =>
      rw [ofPieces_cons_bind] at made
      obtain ⟨token, first, made⟩ := exists_of_bind_eq_ok made
      obtain ⟨later, onward, same⟩ := exists_of_bind_eq_ok made
      cases same
      rw [List.map_cons]
      apply ofPieces_cons (ofPiece_behind before first)
      rw [Place.advance_behind counted]
      exact ih (Place.advance_line_pos counted _) onward

/-- Pieces in a row give their tokens in a row, those behind at the end of the text before. -/
theorem ofPieces_append (place : Place) (pieces others : List Piece) :
    ofPieces place (pieces ++ others) =
      (ofPieces place pieces).bind fun tokens =>
        (ofPieces (place.advance (textOf pieces)) others).bind fun more => .ok (tokens ++ more) := by
  induction pieces generalizing place with
  | nil =>
      change ofPieces place others = (ofPieces place others).bind .ok
      cases ofPieces place others <;> rfl
  | cons piece rest ih =>
      rw [List.cons_append, ofPieces_cons_bind, ofPieces_cons_bind, ih, textOf_cons,
        Place.advance_append]
      simp only [Reported.bind_bind, ok_bind, List.cons_append]

/-- Tokens of both parts that are all tokens of the whole are not content on both sides of the
seam: no two pieces of content are adjacent in the whole. -/
theorem joined_of_segmentation {text : List Char} {first second : List Token}
    (segmentation : Segmentation text ((first ++ second).map piece)) :
    joined first second = first ++ second := by
  rcases joined_cases first second with
    apart | ⟨front, left, right, rest, rfl, rfl, ⟨leftContent, rightContent⟩, -⟩
  · exact apart
  · exfalso
    apply segmentation.apart (front.map piece) left.raw.toList right.raw.toList (rest.map piece)
    rw [List.append_assoc, List.map_append, List.singleton_append, List.map_cons, List.map_cons,
      piece_of_content leftContent, piece_of_content rightContent]

/-- Content that the seam cuts is one token of the whole, with the coordinates of its left part. -/
theorem eq_joined_of_merged {place : Place} {front rest : List Piece} {left right : List Char}
    {before after tokens : List Token}
    (one : ofPieces place (front ++ [.content left]) = .ok before)
    (other : ofPieces (place.advance (textOf (front ++ [.content left]))) (.content right :: rest) =
      .ok after)
    (whole : ofPieces place (front ++ .content (left ++ right) :: rest) = .ok tokens) :
    tokens = joined before after := by
  rw [ofPieces_append] at one whole
  obtain ⟨frontTokens, frontMade, one⟩ := exists_of_bind_eq_ok one
  cases one
  obtain ⟨restTokens, restMade, same⟩ := exists_of_bind_eq_ok other
  cases same
  rw [textOf_append, ← Place.advance_append, List.append_assoc, textOf_cons, List.append_assoc,
    Place.advance_append] at restMade
  have seam : ofPieces (place.advance (textOf front)) (.content (left ++ right) :: rest) =
      .ok (ofContent (place.advance (textOf front)) (left ++ right) :: restTokens) :=
    ofPieces_cons rfl restMade
  rw [frontMade, ok_bind, seam, ok_bind] at whole
  cases whole
  rw [joined_concat_cons, if_pos ⟨rfl, rfl⟩]
  simp only [ofContent, String.ofList_append]

/-- Where no tag crosses the seam, the tokens of the whole are joined from those of its parts. -/
theorem eq_joined_of_uncrossed {first second : String} {tokens before after : List Token}
    (whole : tokenize (first ++ second) = .ok tokens)
    (uncrossed : Uncrossed first.length tokens)
    (one : tokenize first = .ok before) (other : tokenize second = .ok after) :
    tokens = joined before (after.map (behind first.toList)) := by
  have segmentation := segmentation_of_tokenize whole
  have pieces := segmentation_of_cut (first ++ second).toList
  have free := uncrossed_cut whole uncrossed
  rw [String.toList_append] at pieces free
  rw [← String.length_toList] at free
  obtain ⟨firstPieces, secondPieces, inFirst, inSecond, seam⟩ := pieces.split free
  obtain rfl := inFirst.unique (segmentation_of_cut first.toList)
  obtain rfl := inSecond.unique (segmentation_of_cut second.toList)
  have reached : Place.start.behind first.toList =
      Place.start.advance (textOf (cut 0 [] first.toList)) := by
    rw [inFirst.covers, Place.behind_start]
    exact (Place.advance_endOf [] first.toList).symm
  have moved := ofPieces_behind first.toList Nat.one_pos other
  rw [reached] at moved
  rw [tokenize] at one
  rw [tokenize, String.toList_append] at whole
  rcases seam with apart | ⟨front, left, right, rest, firstSplit, secondSplit, merged⟩
  · rw [apart, ofPieces_append, one, ok_bind, moved, ok_bind] at whole
    cases whole
    exact (joined_of_segmentation segmentation).symm
  · rw [firstSplit] at one
    rw [firstSplit, secondSplit] at moved
    rw [merged] at whole
    exact eq_joined_of_merged one moved whole

/-- No token reaches beyond the end of its template. -/
theorem end_le_length {template : String} {tokens : List Token} {token : Token}
    (made : tokenize template = .ok tokens) (among : token ∈ tokens) :
    token.place.offset + token.raw.length ≤ template.length := by
  have all := allCutFrom_of_tokenize made
  have covers := (segmentation_of_tokenize made).covers
  obtain ⟨before, behind, rfl⟩ := List.append_of_mem among
  rw [all.places before token behind rfl, Place.advance_offset, ← String.length_toList,
    ← String.length_toList, ← covers, List.map_append, List.map_cons, textOf_append, textOf_cons,
    piece_raw, List.length_append, List.length_append, Place.start, Nat.zero_add, ← Nat.add_assoc]
  exact Nat.le_add_right _ _

/-- Tokens that are joined from those of two texts do not cross the seam. -/
theorem uncrossed_joined {first : String} {before after : List Token}
    (one : tokenize first = .ok before) :
    Uncrossed first.length (joined before (after.map (behind first.toList))) := by
  rintro token among tag ⟨starts, ends⟩
  rcases mem_of_mem_joined among tag with inFirst | inSecond
  · exact absurd ends (Nat.not_lt.mpr (end_le_length one inFirst))
  · obtain ⟨source, -, rfl⟩ := List.mem_map.mp inSecond
    have moved : first.length ≤ (source.behind first.toList).place.offset := by
      rw [← String.length_toList]
      exact Nat.le_add_right _ _
    exact absurd starts (Nat.not_lt.mpr moved)

/-- Two texts in a row are cut into the tokens of the first one and those of the second one behind
it, with one token for content on both sides of the seam, if and only if no tag crosses the seam. -/
theorem tokenize_append (first second : String) :
    ∃ tokens before after, tokenize (first ++ second) = .ok tokens ∧ tokenize first = .ok before ∧
      tokenize second = .ok after ∧
      (Uncrossed first.length tokens ↔
        tokens = joined before (after.map (behind first.toList))) := by
  obtain ⟨tokens, whole, -⟩ := tokenize_allCutFrom (first ++ second)
  obtain ⟨before, one, -⟩ := tokenize_allCutFrom first
  obtain ⟨after, other, -⟩ := tokenize_allCutFrom second
  refine ⟨tokens, before, after, whole, one, other, ?_, ?_⟩
  · intro uncrossed
    exact eq_joined_of_uncrossed whole uncrossed one other
  · rintro rfl
    exact uncrossed_joined one

end Token

end Template

end Logicless
