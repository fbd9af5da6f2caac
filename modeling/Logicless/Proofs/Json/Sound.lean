import Logicless.Proofs.Json.Complete

/-!
What the reader takes is the layout of a tree: it takes no text that is not JSON.
-/

set_option autoImplicit false

namespace Logicless.Json

/-- A word or a number that the reader takes is the only lexeme of a tree. -/
theorem exists_tree_of_readScalar {limit : Option Nat} {cs behind : List Char} {value : Scalar}
    (read : readScalar limit cs = .ok (value, behind)) :
    ∃ (tree : Tree) (text : List Char), tree.lexemes = [.plain text] ∧ IsPlain text ∧
      cs = text ++ behind := by
  unfold readScalar at read
  split at read
  · rename_i word meaning found
    have among := List.mem_of_find?_eq_some found
    have leads := List.find?_some found
    obtain ⟨rest, rfl⟩ := List.isPrefixOf_iff_prefix.mp leads
    cases read
    rw [List.drop_left]
    simp [words] at among
    rcases among with ⟨rfl, -⟩ | ⟨rfl, -⟩ | ⟨rfl, -⟩
    · exact ⟨.null, _, rfl, isPlain_null, rfl⟩
    · exact ⟨.bool true, _, rfl, isPlain_boolText true, rfl⟩
    · exact ⟨.bool false, _, rfl, isPlain_boolText false, rfl⟩
  · cases read
  · split at read
    · rename_i spelling isInt rest found
      obtain ⟨number, -, same⟩ := exists_of_bind_eq_ok read
      cases same
      obtain ⟨form, rfl, -, split⟩ := exists_form_of_numberPart? found
      exact ⟨.number form, form.spelling, rfl, form.isPlain, split⟩
    · cases read

/-- The lexemes make up a text up to the part `behind` of it. -/
def LaidUpTo (lexemes : List Lexeme) (cs behind : List Char) : Prop :=
  ∀ more, Laid more behind → Laid (lexemes ++ more) cs

namespace LaidUpTo

theorem append {lexemes others : List Lexeme} {cs middle behind : List Char}
    (laid : LaidUpTo lexemes cs middle) (laidOthers : LaidUpTo others middle behind) :
    LaidUpTo (lexemes ++ others) cs behind := by
  intro more rest
  rw [List.append_assoc]
  exact laid _ (laidOthers more rest)

theorem of_skipSpace {lexemes : List Lexeme} {cs behind : List Char}
    (laid : LaidUpTo lexemes (skipSpace cs) behind) : LaidUpTo lexemes cs behind :=
  fun more rest => (laid more rest).of_skipSpace

/-- One mark, with white space in front of it. -/
theorem mark {c : Char} (isPlain : isPlainChar c = true) {cs behind : List Char}
    (found : skipSpace cs = c :: behind) : LaidUpTo [.mark c] cs behind := by
  apply of_skipSpace
  intro more rest
  rw [found]
  have single : IsPlain [c] := ⟨List.cons_ne_nil c [], by simpa using isPlain⟩
  exact .plain single rest

theorem string {cs text behind : List Char} (spelled : SpelledString cs text behind) :
    LaidUpTo [.string text] ('"' :: cs) behind :=
  fun _ rest => .string spelled rest

end LaidUpTo

mutual

/-- A value that the reader takes from the start of a text is the layout of a tree. -/
theorem exists_tree_of_readValue {limit : Option Nat} (fuel : Nat) {cs behind : List Char}
    {datum : Datum} (read : readValue limit fuel cs = .ok (datum, behind)) :
    ∃ tree : Tree, LaidUpTo tree.lexemes cs behind := by
  match fuel with
  | 0 =>
      rw [readValue] at read
      cases read
  | fuel + 1 =>
      unfold readValue at read
      split at read
      · rename_i inside
        obtain ⟨⟨text, rest⟩, named, same⟩ := exists_of_bind_eq_ok read
        cases same
        exact ⟨.string text, .string (spelled_of_readString named)⟩
      · rename_i inside
        have opening : LaidUpTo [.mark '['] ('[' :: inside) inside := .mark rfl rfl
        split at read
        · rename_i rest closed
          cases read
          exact ⟨.array [], opening.append (.mark rfl closed)⟩
        · obtain ⟨⟨items, rest⟩, inner, same⟩ := exists_of_bind_eq_ok read
          cases same
          obtain ⟨item, others, laid⟩ := exists_items_of_readItems fuel inner
          exact ⟨.array (item :: others), opening.append laid.of_skipSpace⟩
      · rename_i inside
        have opening : LaidUpTo [.mark '{'] ('{' :: inside) inside := .mark rfl rfl
        split at read
        · rename_i rest closed
          cases read
          exact ⟨.object [], opening.append (.mark rfl closed)⟩
        · obtain ⟨⟨entries, rest⟩, inner, same⟩ := exists_of_bind_eq_ok read
          cases same
          obtain ⟨member, others, laid⟩ := exists_members_of_readMembers fuel inner
          exact ⟨.object (member :: others), opening.append laid.of_skipSpace⟩
      · obtain ⟨⟨value, rest⟩, scalar, same⟩ := exists_of_bind_eq_ok read
        cases same
        obtain ⟨tree, text, lexemes, isPlain, rfl⟩ := exists_tree_of_readScalar scalar
        refine ⟨tree, fun more rest => ?_⟩
        rw [lexemes]
        exact .plain isPlain rest

theorem exists_items_of_readItems {limit : Option Nat} (fuel : Nat) {cs behind : List Char}
    {data : List Datum} (read : readItems limit fuel cs = .ok (data, behind)) :
    ∃ item others, LaidUpTo (Tree.itemLexemes (item :: others) ++ [.mark ']']) cs behind := by
  match fuel with
  | 0 =>
      rw [readItems] at read
      cases read
  | fuel + 1 =>
      rw [readItems] at read
      obtain ⟨⟨first, last⟩, one, read⟩ := exists_of_bind_eq_ok read
      obtain ⟨item, laid⟩ := exists_tree_of_readValue fuel one
      dsimp only at read
      split at read
      · rename_i rest closed
        cases read
        exact ⟨item, [], laid.append (.mark rfl closed)⟩
      · rename_i rest comma
        obtain ⟨⟨more, rest⟩, inner, same⟩ := exists_of_bind_eq_ok read
        cases same
        obtain ⟨next, others, laidOthers⟩ := exists_items_of_readItems fuel inner
        refine ⟨item, next :: others, ?_⟩
        have behindComma := LaidUpTo.append (.mark rfl comma) laidOthers.of_skipSpace
        rw [Tree.itemLexemes, List.append_assoc]
        exact laid.append behindComma
      · cases read

theorem exists_members_of_readMembers {limit : Option Nat} (fuel : Nat) {cs behind : List Char}
    {data : List (Key × Datum)} (read : readMembers limit fuel cs = .ok (data, behind)) :
    ∃ member others, LaidUpTo (Tree.memberLexemes (member :: others) ++ [.mark '}']) cs behind := by
  match fuel with
  | 0 =>
      rw [readMembers] at read
      cases read
  | fuel + 1 =>
      unfold readMembers at read
      split at read
      · rename_i inside
        obtain ⟨⟨name, afterName⟩, named, read⟩ := exists_of_bind_eq_ok read
        have laidName := LaidUpTo.string (spelled_of_readString named)
        dsimp only at read
        split at read
        · rename_i afterColon colon
          obtain ⟨⟨value, last⟩, one, read⟩ := exists_of_bind_eq_ok read
          obtain ⟨tree, laidValue⟩ := exists_tree_of_readValue fuel one
          have laid := laidName.append (LaidUpTo.append (.mark rfl colon) laidValue.of_skipSpace)
          dsimp only at read
          split at read
          · rename_i rest closed
            cases read
            refine ⟨(name, tree), [], ?_⟩
            rw [Tree.memberLexemes]
            exact laid.append (.mark rfl closed)
          · rename_i rest comma
            obtain ⟨⟨more, rest⟩, inner, same⟩ := exists_of_bind_eq_ok read
            cases same
            obtain ⟨next, others, laidOthers⟩ := exists_members_of_readMembers fuel inner
            refine ⟨(name, tree), next :: others, ?_⟩
            have behindComma := LaidUpTo.append (.mark rfl comma) laidOthers.of_skipSpace
            have together := laid.append behindComma
            simp only [Tree.memberLexemes, List.append_assoc, List.cons_append, List.nil_append]
              at together ⊢
            exact together
          · cases read
        · cases read
      · cases read

end

/-- A text that the reader takes is the layout of a tree. -/
theorem exists_tree_of_readAll {limit : Option Nat} {cs : List Char} {datum : Datum}
    (read : readAll limit cs = .ok datum) : ∃ tree : Tree, Laid tree.lexemes cs := by
  unfold readAll at read
  split at read
  · cases read
  · obtain ⟨⟨value, behind⟩, one, read⟩ := exists_of_bind_eq_ok read
    obtain ⟨tree, laid⟩ := exists_tree_of_readValue _ one
    dsimp only at read
    split at read
    · rename_i ended
      have rest : Laid [] behind := by
        apply Laid.of_skipSpace
        rw [ended]
        exact .done
      have whole := laid.of_skipSpace [] rest
      rw [List.append_nil] at whole
      exact ⟨tree, whole⟩
    · cases read

end Logicless.Json
