import Logicless.Proofs.Json.Tree

/-!
The reader takes every layout of a tree, whatever white space stands in it and however its strings
are spelled, and gives the data of the tree or fails as these do.
-/

set_option autoImplicit false

namespace Logicless.Json

namespace Tree

theorem lexemes_ne_nil (tree : Tree) : tree.lexemes ≠ [] := by
  cases tree <;> simp [lexemes]

/-- No value starts with a closing bracket. -/
theorem ne_closing_of_leads (tree : Tree) {more : List Lexeme} {cs : List Char}
    (leads : Leads (tree.lexemes ++ more) cs) : ∀ behind, cs ≠ ']' :: behind := by
  rintro behind rfl
  cases tree with
  | null =>
      obtain ⟨-, rest, same, -⟩ := leads
      cases same
  | bool value =>
      obtain ⟨-, rest, same, -⟩ := leads
      cases value <;> cases same
  | number form =>
      obtain ⟨-, rest, same, -⟩ := leads
      obtain ⟨digit, others, isDigit, start | start⟩ := form.start
      · rw [start] at same
        cases same
        cases isDigit
      · rw [start] at same
        cases same
  | string text =>
      obtain ⟨inside, rest, same, -⟩ := leads
      cases same
  | array items =>
      obtain ⟨-, rest, same, -⟩ := leads
      cases same
  | object members =>
      obtain ⟨-, rest, same, -⟩ := leads
      cases same

theorem itemLexemes_cons (item : Tree) (rest : List Tree) :
    ∃ others, itemLexemes (item :: rest) = item.lexemes ++ others := by
  cases rest with
  | nil => exact ⟨[], (List.append_nil item.lexemes).symm⟩
  | cons next rest => exact ⟨_, rfl⟩

theorem memberLexemes_cons (name : List Char) (value : Tree) (rest : List (List Char × Tree)) :
    ∃ others, memberLexemes ((name, value) :: rest) =
      .string name :: .mark ':' :: (value.lexemes ++ others) := by
  cases rest with
  | nil => exact ⟨[], by rw [memberLexemes, List.append_nil]⟩
  | cons next rest => exact ⟨_, rfl⟩

variable (limit : Option Nat)

mutual

/-- The reader takes a value as its tree says, up to where the value ends. The lexemes behind are
arbitrary but close the value, so that it applies to the parts of another value; every call of the
reader uses up one lexeme, so their number is fuel enough. -/
theorem readValue_of_laid (tree : Tree) {more : List Lexeme} {cs : List Char} {fuel : Nat}
    (laid : Laid (tree.lexemes ++ more) cs) (closes : Closes more)
    (enough : tree.lexemes.length ≤ fuel) :
    ∃ behind, Laid more behind ∧ readValue limit fuel (skipSpace cs) = do
      let datum ← tree.datum limit
      return (datum, behind) := by
  have leads := laid.leads
  have positive := List.length_pos_iff.mpr tree.lexemes_ne_nil
  obtain ⟨fuel, rfl⟩ := Nat.exists_eq_succ_of_ne_zero (by omega : fuel ≠ 0)
  match tree with
  | .null =>
      obtain ⟨-, behind, split, rest⟩ := leads
      refine ⟨behind, rest, ?_⟩
      rw [split]
      rfl
  | .bool value =>
      obtain ⟨-, behind, split, rest⟩ := leads
      refine ⟨behind, rest, ?_⟩
      rw [split]
      cases value <;> rfl
  | .number form =>
      obtain ⟨-, behind, split, rest⟩ := leads
      refine ⟨behind, rest, ?_⟩
      have scalar : readValue limit (fuel + 1) (form.spelling ++ behind) = do
          let (value, behind) ← readScalar limit (form.spelling ++ behind)
          return (.scalar value, behind) := by
        obtain ⟨c, others, start, noQuote, noBracket, noBrace⟩ := form.exists_start
        rw [start]
        exact readValue_scalar limit fuel (others ++ behind) noQuote noBracket noBrace
      rw [split, scalar, readScalar_number limit behind form (rest.endsNumber closes), datum]
      simp only [bind_assoc, pure_bind]
  | .string text =>
      obtain ⟨inside, behind, split, spelled, rest⟩ := leads
      refine ⟨behind, rest, ?_⟩
      rw [split, readValue_string, readString_of_spelled spelled]
      rfl
  | .array [] =>
      obtain ⟨-, inside, split, laidInside⟩ := leads
      obtain ⟨-, behind, closed, rest⟩ := laidInside.leads
      refine ⟨behind, rest, ?_⟩
      rw [split]
      exact readValue_emptyArray limit fuel inside closed
  | .array (item :: others) =>
      rw [lexemes, List.cons_append, List.append_assoc, List.singleton_append] at leads
      rw [lexemes, List.length_cons, List.length_append, List.length_singleton] at enough
      obtain ⟨-, inside, split, laidInside⟩ := leads
      -- The reader looks for the closing bracket first, and must not find it.
      have filled : ∀ behind, skipSpace inside ≠ ']' :: behind := by
        have itemLeads := laidInside.leads
        obtain ⟨tail, start⟩ := itemLexemes_cons item others
        rw [start, List.append_assoc] at itemLeads
        exact item.ne_closing_of_leads itemLeads
      obtain ⟨behind, rest, read⟩ :=
        readItems_of_laid (item :: others) (List.cons_ne_nil item others) laidInside
          (by omega : (itemLexemes (item :: others)).length < fuel)
      refine ⟨behind, rest, ?_⟩
      have array := readValue_array limit fuel inside filled
      rw [read] at array
      rw [split, datum]
      simp only [bind_assoc, pure_bind] at array ⊢
      exact array
  | .object [] =>
      obtain ⟨-, inside, split, laidInside⟩ := leads
      obtain ⟨-, behind, closed, rest⟩ := laidInside.leads
      refine ⟨behind, rest, ?_⟩
      rw [split]
      exact readValue_emptyObject limit fuel inside closed
  | .object ((name, value) :: others) =>
      rw [lexemes, List.cons_append, List.append_assoc, List.singleton_append] at leads
      rw [lexemes, List.length_cons, List.length_append, List.length_singleton] at enough
      obtain ⟨-, inside, split, laidInside⟩ := leads
      have filled : ∀ behind, skipSpace inside ≠ '}' :: behind := by
        have nameLeads := laidInside.leads
        obtain ⟨tail, start⟩ := memberLexemes_cons name value others
        rw [start] at nameLeads
        obtain ⟨nameInside, afterName, quote, -⟩ := nameLeads
        rw [quote]
        nofun
      obtain ⟨behind, rest, read⟩ :=
        readMembers_of_laid ((name, value) :: others) (List.cons_ne_nil _ others) laidInside
          (by omega : (memberLexemes ((name, value) :: others)).length < fuel)
      refine ⟨behind, rest, ?_⟩
      have object := readValue_object limit fuel inside filled
      rw [read] at object
      rw [split, datum]
      simp only [bind_assoc, pure_bind] at object ⊢
      exact object

theorem readItems_of_laid (items : List Tree) (filled : items ≠ []) {more : List Lexeme}
    {cs : List Char} {fuel : Nat} (laid : Laid (itemLexemes items ++ .mark ']' :: more) cs)
    (enough : (itemLexemes items).length < fuel) :
    ∃ behind, Laid more behind ∧ readItems limit fuel (skipSpace cs) = do
      let data ← itemData limit items
      return (data, behind) := by
  obtain ⟨fuel, rfl⟩ := Nat.exists_eq_succ_of_ne_zero (by omega : fuel ≠ 0)
  match items with
  | [] => exact absurd rfl filled
  | [item] =>
      rw [itemLexemes] at laid enough
      have enoughItem : item.lexemes.length ≤ fuel := by omega
      obtain ⟨last, laidLast, read⟩ :=
        readValue_of_laid item laid (closes_mark (by decide) more) enoughItem
      obtain ⟨-, behind, closed, rest⟩ := laidLast.leads
      refine ⟨behind, rest, ?_⟩
      rw [readItems_succ, read, itemData, itemData]
      simp only [bind_assoc, pure_bind, closed]
      rfl
  | item :: next :: others =>
      rw [itemLexemes, List.append_assoc, List.cons_append] at laid
      rw [itemLexemes, List.length_append, List.length_cons] at enough
      have enoughItem : item.lexemes.length ≤ fuel := by omega
      obtain ⟨last, laidLast, read⟩ :=
        readValue_of_laid item laid (closes_mark (by decide) _) enoughItem
      obtain ⟨-, afterComma, comma, laidOthers⟩ := laidLast.leads
      obtain ⟨behind, rest, readOthers⟩ :=
        readItems_of_laid (next :: others) (List.cons_ne_nil next others) laidOthers
          (by omega : (itemLexemes (next :: others)).length < fuel)
      refine ⟨behind, rest, ?_⟩
      rw [readItems_succ, read, itemData]
      simp only [bind_assoc, pure_bind, comma, List.singleton_append, readOthers]

theorem readMembers_of_laid (members : List (List Char × Tree)) (filled : members ≠ [])
    {more : List Lexeme} {cs : List Char} {fuel : Nat}
    (laid : Laid (memberLexemes members ++ .mark '}' :: more) cs)
    (enough : (memberLexemes members).length < fuel) :
    ∃ behind, Laid more behind ∧ readMembers limit fuel (skipSpace cs) = do
      let data ← memberData limit members
      return (data, behind) := by
  obtain ⟨fuel, rfl⟩ := Nat.exists_eq_succ_of_ne_zero (by omega : fuel ≠ 0)
  match members with
  | [] => exact absurd rfl filled
  | [(name, value)] =>
      rw [memberLexemes] at laid enough
      obtain ⟨inside, afterName, quote, spelled, laidColon⟩ := laid.leads
      obtain ⟨-, afterColon, colon, laidValue⟩ := laidColon.leads
      have enoughValue : value.lexemes.length ≤ fuel := by
        simp only [List.length_cons] at enough
        omega
      obtain ⟨last, laidLast, read⟩ :=
        readValue_of_laid value laidValue (closes_mark (by decide) more) enoughValue
      obtain ⟨-, behind, closed, rest⟩ := laidLast.leads
      refine ⟨behind, rest, ?_⟩
      have named : readString (inside.length + 1) 0 inside = pure (name, afterName) :=
        readString_of_spelled spelled _
      rw [quote, readMembers_succ, named, memberData, memberData]
      simp only [pure_bind, bind_assoc, colon, List.singleton_append, read, closed]
      rfl
  | (name, value) :: next :: others =>
      rw [memberLexemes, List.cons_append, List.cons_append, List.append_assoc, List.cons_append]
        at laid
      rw [memberLexemes] at enough
      simp only [List.length_cons, List.length_append] at enough
      obtain ⟨inside, afterName, quote, spelled, laidColon⟩ := laid.leads
      obtain ⟨-, afterColon, colon, laidValue⟩ := laidColon.leads
      obtain ⟨last, laidLast, read⟩ :=
        readValue_of_laid value laidValue (closes_mark (by decide) _)
          (by omega : value.lexemes.length ≤ fuel)
      obtain ⟨-, afterComma, comma, laidOthers⟩ := laidLast.leads
      obtain ⟨behind, rest, readOthers⟩ :=
        readMembers_of_laid (next :: others) (List.cons_ne_nil next others) laidOthers
          (by omega : (memberLexemes (next :: others)).length < fuel)
      refine ⟨behind, rest, ?_⟩
      have named : readString (inside.length + 1) 0 inside = pure (name, afterName) :=
        readString_of_spelled spelled _
      rw [quote, readMembers_succ, named, memberData]
      simp only [pure_bind, bind_assoc, colon, List.singleton_append, read, comma, readOthers]

end

end Tree

theorem Laid.no_byteOrderMark {lexemes : List Lexeme} {cs : List Char} (laid : Laid lexemes cs) :
    cs.head? ≠ some '\uFEFF' := by
  intro mark
  cases laid with
  | done => cases mark
  | space blank rest =>
      cases mark
      cases blank
  | plain isPlain rest =>
      obtain ⟨c, others, rfl, first⟩ := isPlain.exists_cons
      cases mark
      cases first
  | string spelled rest => cases mark

/-- The reader takes a layout of a tree for the data of this tree. -/
theorem readAll_of_laid (limit : Option Nat) (tree : Tree) {cs : List Char}
    (laid : Laid tree.lexemes cs) : readAll limit cs = tree.datum limit := by
  have fits := laid.length_le
  have whole : Laid (tree.lexemes ++ []) cs := by rwa [List.append_nil]
  obtain ⟨behind, rest, read⟩ := tree.readValue_of_laid limit whole closes_nil
    (by omega : tree.lexemes.length ≤ 2 * cs.length + 1)
  have ended : skipSpace behind = [] := rest.leads
  rw [readAll, if_neg laid.no_byteOrderMark, read]
  simp only [bind_assoc, pure_bind, ended]
  exact bind_pure _

end Logicless.Json
