import Logicless.Proofs.Template.Marks

/-!
Where tokens stand. A place is moved piece by piece: the line feeds of the piece are counted, and the
column starts again behind the last of them. However a text is cut, and whatever is refused on the
way, the place is always the one at the end of the text that was taken. So each token of a template
stands where its first character does.
-/

set_option autoImplicit false

namespace Logicless

namespace Text

/-- The characters behind the last line feed. -/
def lastLine (cs : List Char) : List Char := (cs.reverse.takeWhile (· ≠ '\n')).reverse

theorem lastLine_append_of_mem {cs : List Char} (broken : '\n' ∈ cs) (before : List Char) :
    lastLine (before ++ cs) = lastLine cs := by
  have stops : ¬ (cs.reverse.takeWhile (· ≠ '\n')).length = cs.reverse.length := by
    intro all
    have whole := (List.takeWhile_prefix (· ≠ '\n')).eq_of_length all
    have feed : '\n' ∈ cs.reverse.takeWhile (· ≠ '\n') := by
      rw [whole]
      exact List.mem_reverse.mpr broken
    exact absurd (List.all_eq_true.mp List.all_takeWhile '\n' feed) (by decide)
  rw [lastLine, List.reverse_append, List.takeWhile_append, if_neg stops, lastLine]

theorem lastLine_append_of_not_mem {cs : List Char} (unbroken : '\n' ∉ cs) (before : List Char) :
    lastLine (before ++ cs) = lastLine before ++ cs := by
  have plain : ∀ c ∈ cs.reverse, decide (c ≠ '\n') = true := by
    intro c among
    apply decide_eq_true
    rintro rfl
    exact unbroken (List.mem_reverse.mp among)
  rw [lastLine, List.reverse_append, List.takeWhile_append_of_pos plain, List.reverse_append,
    List.reverse_reverse, lastLine]

namespace Place

def endOf (text : List Char) : Place :=
  ⟨text.length, 1 + text.count '\n', 1 + (lastLine text).length⟩

/-- A place behind a text, by the length of the text, its line feeds and its last line. -/
theorem advance_eq (place : Place) (consumed : List Char) :
    place.advance consumed =
      ⟨place.offset + consumed.length, place.line + consumed.count '\n',
        if '\n' ∈ consumed then 1 + (lastLine consumed).length
        else place.column + consumed.length⟩ := by
  induction consumed generalizing place with
  | nil => rfl
  | cons c rest ih =>
      rw [advance_cons, ih, Place.mk.injEq]
      by_cases feed : c = '\n'
      · subst feed
        have stepped : place.step '\n' = ⟨place.offset + 1, place.line + 1, 1⟩ := rfl
        simp only [stepped, List.length_cons, List.count_cons_self, List.mem_cons_self, if_true]
        refine ⟨by omega, by omega, ?_⟩
        by_cases later : '\n' ∈ rest
        · rw [if_pos later, ← lastLine_append_of_mem later ['\n']]
          rfl
        · rw [if_neg later, ← List.singleton_append, lastLine_append_of_not_mem later]
          rfl
      · have stepped : place.step c = ⟨place.offset + 1, place.line, place.column + 1⟩ := if_neg feed
        have among : '\n' ∈ c :: rest ↔ '\n' ∈ rest := by
          rw [List.mem_cons, or_iff_right (Ne.symm feed)]
        simp only [stepped, List.length_cons, List.count_cons_of_ne feed, among]
        refine ⟨by omega, trivial, ?_⟩
        by_cases later : '\n' ∈ rest
        · rw [if_pos later, if_pos later, ← List.singleton_append, lastLine_append_of_mem later]
        · rw [if_neg later, if_neg later]
          omega

/-- Moved on from the end of a text, a place is at the end of the longer text. -/
theorem advance_endOf (text more : List Char) : (endOf text).advance more = endOf (text ++ more) := by
  rw [advance_eq, endOf, endOf, Place.mk.injEq, List.length_append, List.count_append]
  refine ⟨rfl, Nat.add_assoc .., ?_⟩
  by_cases broken : '\n' ∈ more
  · rw [if_pos broken, lastLine_append_of_mem broken]
  · rw [if_neg broken, lastLine_append_of_not_mem broken, List.length_append, Nat.add_assoc]

end Place

end Text

namespace Template

open Text Piece

/-- A text with `width` braces at either end. -/
def Enclosed (width : Nat) (raw : List Char) : Prop :=
  ∃ inside, raw = run width '{' ++ inside ++ run width '}'

/-- The braces at the two ends of a text never overlap, since no brace both opens and closes. -/
theorem isFenced_iff_enclosed (width : Nat) (raw : List Char) :
    isFenced width raw = true ↔ Enclosed width raw := by
  rw [isFenced, Bool.and_eq_true, List.isPrefixOf_iff_prefix, List.isSuffixOf_iff_suffix]
  constructor
  · rintro ⟨⟨rest, rfl⟩, closed⟩
    rcases List.suffix_or_suffix_of_suffix closed (List.suffix_append _ rest) with
      ⟨inside, rfl⟩ | ⟨shared, split⟩
    · exact ⟨inside, (List.append_assoc ..).symm⟩
    · obtain ⟨before, whole⟩ := closed
      rw [← split, ← List.append_assoc, List.append_cancel_right_eq] at whole
      have none : shared = [] := by
        apply List.eq_nil_iff_forall_not_mem.mpr
        intro c among
        have opens : c ∈ run width '{' := by
          rw [← whole]
          exact List.mem_append_right before among
        have closes : c ∈ run width '}' := by
          rw [← split]
          exact List.mem_append_left rest among
        rw [List.eq_of_mem_replicate opens] at closes
        exact absurd (List.eq_of_mem_replicate closes) (by decide)
      refine ⟨[], ?_⟩
      rw [List.append_nil, ← split, none, List.nil_append]
  · rintro ⟨inside, rfl⟩
    refine ⟨?_, List.suffix_append _ _⟩
    rw [List.append_assoc]
    exact List.prefix_append _ _

theorem classifyTag?_eq_none_iff (raw : List Char) :
    classifyTag? raw = none ↔ ¬ Enclosed 3 raw ∧ ¬ Enclosed 2 raw := by
  rw [← isFenced_iff_enclosed, ← isFenced_iff_enclosed, classifyTag?]
  cases isFenced 3 raw <;> cases isFenced 2 raw <;> simp

namespace Token

section Taking

variable {place : Place} {piece : Piece}

theorem take_of_ok {token : Token} (made : (take place piece).1 = .ok token) :
    (take place piece).2 = place.advance piece.raw ∧ token.place = place := by
  cases piece with
  | content raw =>
      cases made
      exact ⟨rfl, rfl⟩
  | tag raw =>
      rw [take, ofTag] at made ⊢
      cases classified : classifyTag? raw with
      | none =>
          rw [classified] at made
          cases made
      | some found =>
          rw [classified] at made
          cases made
          exact ⟨rfl, rfl⟩

theorem take_of_error {error : LexError} (refused : (take place piece).1 = .error error) :
    (take place piece).2 = place := by
  cases piece with
  | content raw => cases refused
  | tag raw =>
      rw [take] at refused ⊢
      split at refused
      · cases refused
      · rfl

/-- A tag is refused if and only if it has braces at its ends in neither of the two forms. The error
says where, and nothing is taken. -/
theorem take_tag_eq_error_iff (place : Place) (raw : List Char) (error : LexError) (next : Place) :
    take place (.tag raw) = (.error error, next) ↔
      (¬ Enclosed 3 raw ∧ ¬ Enclosed 2 raw) ∧ error = ⟨String.ofList raw, place⟩ ∧ next = place := by
  rw [← classifyTag?_eq_none_iff, take, ofTag]
  cases classifyTag? raw with
  | none =>
      constructor
      · intro same
        cases same
        exact ⟨rfl, rfl, rfl⟩
      · rintro ⟨-, rfl, rfl⟩
        rfl
  | some found =>
      constructor
      · intro same
        cases same
      · rintro ⟨other, -⟩
        cases other

end Taking

/-- The place behind pieces that are taken one after the other. -/
def placeBehind (place : Place) (pieces : List Piece) : Place :=
  pieces.foldl (fun place piece => (take place piece).2) place

/-- The text of those among some pieces that make a token. -/
def takenText (place : Place) : List Piece → List Char
  | [] => []
  | piece :: rest =>
    match take place piece with
    | (.ok _, next) => piece.raw ++ takenText next rest
    | (.error _, next) => takenText next rest

/-- Taken from the end of a text, pieces lead to the end of that text with theirs behind it. -/
theorem placeBehind_endOf (text : List Char) (pieces : List Piece) :
    placeBehind (.endOf text) pieces = .endOf (text ++ takenText (.endOf text) pieces) := by
  induction pieces generalizing text with
  | nil => rw [takenText, List.append_nil, placeBehind, List.foldl_nil]
  | cons piece rest ih =>
      rw [placeBehind, List.foldl_cons, ← placeBehind, takenText]
      rcases taken : take (.endOf text) piece with ⟨answer, next⟩
      cases answer with
      | ok token =>
          have moved : next = .endOf (text ++ piece.raw) := by
            rw [← Place.advance_endOf, ← (take_of_ok (congrArg Prod.fst taken)).1, taken]
          rw [moved, ih, List.append_assoc]
      | error error =>
          have stayed : next = .endOf text := by
            rw [← take_of_error (congrArg Prod.fst taken), taken]
          rw [stayed, ih]

/-- Whatever pieces are taken from the start, in whatever order and with whatever failures between
them, the place is at the end of the text that was taken; a tag is refused there if and only if it
has no braces around it, which moves nothing and names that place; and what is taken makes a token of
that place. So the place of each token of a template is that of its first character. -/
theorem coordinates_of_taken :
    (∀ pieces : List Piece,
      let place := placeBehind .start pieces
      let text := takenText .start pieces
      (place.offset = text.length ∧ place.line = 1 + text.count '\n' ∧
        place.column = 1 + (lastLine text).length) ∧
      (∀ raw error next, take place (.tag raw) = (.error error, next) ↔
        (¬ Enclosed 3 raw ∧ ¬ Enclosed 2 raw) ∧ error = ⟨String.ofList raw, place⟩ ∧ next = place) ∧
      (∀ raw, ∃ token next, take place (.content raw) = (.ok token, next)) ∧
      ∀ piece token next, take place piece = (.ok token, next) →
        token.place = place ∧ next = .endOf (text ++ piece.raw)) ∧
    ∀ template, ∃ tokens, tokenize template = .ok tokens ∧
      ∀ before token behind, tokens = before ++ token :: behind →
        let passed := String.join (before.map Token.raw)
        template = passed ++ token.raw ++ String.join (behind.map Token.raw) ∧ token.raw ≠ "" ∧
          token.place.offset = passed.length ∧
          token.place.line = 1 + passed.toList.count '\n' ∧
          token.place.column = 1 + (lastLine passed.toList).length := by
  constructor
  · intro pieces place text
    have atEnd : place = .endOf text := placeBehind_endOf [] pieces
    refine ⟨?_, take_tag_eq_error_iff place, fun raw => ⟨_, _, rfl⟩, ?_⟩
    · rw [atEnd]
      exact ⟨rfl, rfl, rfl⟩
    · intro piece token next taken
      obtain ⟨moved, stands⟩ := take_of_ok (congrArg Prod.fst taken)
      rw [taken] at moved
      refine ⟨stands, ?_⟩
      rw [← Place.advance_endOf, ← atEnd]
      exact moved
  · intro template
    obtain ⟨tokens, made, cutFrom⟩ := tokenize_allCutFrom template
    have segmentation := segmentation_of_cut template.toList
    rw [← cutFrom.pieces] at segmentation
    refine ⟨tokens, made, ?_⟩
    intro before token behind split passed
    have whole : template = String.join (tokens.map Token.raw) := by
      rw [← String.toList_inj, ← textOf_pieces, segmentation.covers]
    have filled : token.raw ≠ "" := by
      intro empty
      have among : token.piece ∈ tokens.map piece := by
        rw [split]
        exact List.mem_map_of_mem (List.mem_append_right before List.mem_cons_self)
      apply segmentation.filled token.piece among
      rw [piece_raw, empty]
      rfl
    have stands : token.place = .endOf passed.toList := by
      rw [cutFrom.places before token behind split, textOf_pieces]
      exact Place.advance_endOf [] passed.toList
    refine ⟨?_, filled, ?_, ?_, ?_⟩
    · rw [whole, split, List.map_append, List.map_cons, ← String.toList_inj]
      simp only [String.toList_join, String.toList_append, List.flatMap_append, List.flatMap_cons,
        List.append_assoc, passed]
    · rw [stands]
      exact String.length_toList
    · rw [stands]
      rfl
    · rw [stands]
      rfl

end Token

end Template

end Logicless
