import Logicless.Document.Text
import Logicless.Proofs.Json.Layout
import Logicless.Proofs.Json.NumberValue

/-!
The grammar of JSON. A text is JSON if it is a layout of the lexemes of a tree, and the reader takes
it for the data of this tree. Numbers keep their spelling in a tree, and objects all of their
members, so a tree tells more than the data that it stands for.
-/

set_option autoImplicit false

namespace Logicless.Json

inductive Tree where
  | null
  | bool (value : Bool)
  | number (form : NumberForm)
  | string (text : List Char)
  | array (items : List Tree)
  | object (members : List (List Char × Tree))

namespace Tree

mutual

def lexemes : Tree → List Lexeme
  | .null => [.plain "null".toList]
  | .bool value => [.plain (Document.boolText value)]
  | .number form => [.plain form.spelling]
  | .string text => [.string text]
  | .array items => .mark '[' :: (itemLexemes items ++ [.mark ']'])
  | .object members => .mark '{' :: (memberLexemes members ++ [.mark '}'])

def itemLexemes : List Tree → List Lexeme
  | [] => []
  | [item] => lexemes item
  | item :: next :: rest => lexemes item ++ .mark ',' :: itemLexemes (next :: rest)

def memberLexemes : List (List Char × Tree) → List Lexeme
  | [] => []
  | [(name, value)] => .string name :: .mark ':' :: lexemes value
  | (name, value) :: next :: rest =>
    .string name :: .mark ':' :: (lexemes value ++ .mark ',' :: memberLexemes (next :: rest))

end

variable (limit : Option Nat)

mutual

/-- The data that a tree stands for, its integers within a limit. -/
def datum : Tree → Except Stop Datum
  | .null => .ok (.scalar .null)
  | .bool value => .ok (.scalar (.bool value))
  | .number form => return .scalar (← numberOf limit form.spelling form.isInt)
  | .string text => .ok (.text (String.ofList text))
  | .array items => return .list (← itemData items)
  | .object members => return .dict (Datum.ofEntries (← memberData members))

def itemData : List Tree → Except Stop (List Datum)
  | [] => .ok []
  | item :: rest => do
    let first ← datum item
    let others ← itemData rest
    return first :: others

def memberData : List (List Char × Tree) → Except Stop (List (Key × Datum))
  | [] => .ok []
  | (name, value) :: rest => do
    let first ← datum value
    let others ← memberData rest
    return (.scalar (.text (String.ofList name)), first) :: others

end

end Tree

/-- What may follow a value: a separator or a closing bracket, or nothing. -/
def Closes (lexemes : List Lexeme) : Prop :=
  ∀ lexeme, lexemes.head? = some lexeme →
    lexeme = .mark ',' ∨ lexeme = .mark ']' ∨ lexeme = .mark '}'

theorem closes_nil : Closes [] := nofun

theorem closes_mark {c : Char} (closing : c = ',' ∨ c = ']' ∨ c = '}') (lexemes : List Lexeme) :
    Closes (.mark c :: lexemes) := by
  intro lexeme first
  cases first
  rcases closing with rfl | rfl | rfl
  · exact .inl rfl
  · exact .inr (.inl rfl)
  · exact .inr (.inr rfl)

theorem endsNumber_cons {c : Char} (other : isNumeric c = false) (cs : List Char) :
    EndsNumber (c :: cs) := by
  intro first same
  cases same
  simp only [isNumeric, Bool.or_eq_false_iff, decide_eq_false_iff_not] at other
  obtain ⟨⟨⟨⟨⟨digit, -⟩, -⟩, point⟩, lower⟩, upper⟩ := other
  exact ⟨digit, point, lower, upper⟩

/-- No number goes on with what follows a value. -/
theorem Laid.endsNumber {lexemes : List Lexeme} {cs : List Char} (laid : Laid lexemes cs)
    (closes : Closes lexemes) : EndsNumber cs := by
  cases laid with
  | done => nofun
  | space blank rest =>
      refine endsNumber_cons ?_ _
      simp only [isSpace, Bool.or_eq_true, decide_eq_true_eq] at blank
      rcases blank with ((rfl | rfl) | rfl) | rfl <;> rfl
  | plain isPlain rest =>
      rcases closes _ rfl with same | same | same <;> cases same <;> exact endsNumber_cons rfl _
  | string spelled rest => rcases closes _ rfl with same | same | same <;> cases same

theorem isPlain_null : IsPlain "null".toList := .of_all nofun rfl

theorem isPlain_boolText (value : Bool) : IsPlain (Document.boolText value) := by
  cases value <;> exact .of_all nofun rfl

section Equations

variable (limit : Option Nat) (fuel : Nat) (cs : List Char)

theorem find?_word_of_digit {c : Char} (digit : c.isDigit = true) :
    words.find? (fun word => word.1.isPrefixOf (c :: cs)) = none := by
  rw [List.find?_eq_none]
  intro word among
  simp [words] at among
  rcases among with rfl | rfl | rfl | rfl | rfl | rfl
  all_goals
    simp only [List.isPrefixOf, Bool.and_eq_true, beq_iff_eq]
    rintro ⟨rfl, -⟩
    cases digit

theorem find?_word_of_minus {c : Char} (digit : c.isDigit = true) :
    words.find? (fun word => word.1.isPrefixOf ('-' :: c :: cs)) = none := by
  rw [List.find?_eq_none]
  intro word among
  simp [words] at among
  rcases among with rfl | rfl | rfl | rfl | rfl | rfl
  all_goals simp [List.isPrefixOf]
  rintro rfl
  cases digit

theorem NumberForm.isPlain (form : NumberForm) : IsPlain form.spelling := by
  refine ⟨?_, ?_⟩
  · obtain ⟨c, rest, start, -⟩ := form.exists_start
    rw [start]
    exact List.cons_ne_nil c rest
  · intro c among
    have bounds := isNumeric_toNat (form.isNumeric_of_mem c among)
    have noQuote : c ≠ '"' := by
      rintro rfl
      have code : '"'.toNat = 0x22 := rfl
      omega
    simp only [isPlainChar, Bool.and_eq_true, decide_eq_true_eq, bne_iff_ne]
    exact ⟨⟨by omega, bounds.2⟩, noQuote⟩

theorem readScalar_number (form : NumberForm) (ends : EndsNumber cs) :
    readScalar limit (form.spelling ++ cs) = do
      let value ← numberOf limit form.spelling form.isInt
      return (value, cs) := by
  have noWord : words.find? (fun word => word.1.isPrefixOf (form.spelling ++ cs)) = none := by
    obtain ⟨digit, rest, isDigit, start | start⟩ := form.start
    · rw [start]
      exact find?_word_of_digit (rest ++ cs) isDigit
    · rw [start]
      exact find?_word_of_minus (rest ++ cs) isDigit
  rw [readScalar, noWord]
  simp only [numberPart?_spelling form ends]

theorem readItems_succ :
    readItems limit (fuel + 1) cs = (do
      let (item, behind) ← readValue limit fuel cs
      match skipSpace behind with
      | ']' :: behind => return ([item], behind)
      | ',' :: rest =>
        let (items, behind) ← readItems limit fuel (skipSpace rest)
        return (item :: items, behind)
      | other => faultAt .expectingComma other) := rfl

theorem readMembers_succ :
    readMembers limit (fuel + 1) ('"' :: cs) = (do
      let (name, behind) ← readString (cs.length + 1) 0 cs
      match skipSpace behind with
      | ':' :: rest =>
        let (value, behind) ← readValue limit fuel (skipSpace rest)
        let entry := (Key.scalar (.text (String.ofList name)), value)
        match skipSpace behind with
        | '}' :: behind => return ([entry], behind)
        | ',' :: rest =>
          let (entries, behind) ← readMembers limit fuel (skipSpace rest)
          return (entry :: entries, behind)
        | other => faultAt .expectingComma other
      | other => faultAt .expectingColon other) := rfl

theorem readValue_string :
    readValue limit (fuel + 1) ('"' :: cs) = do
      let (text, behind) ← readString (cs.length + 1) 0 cs
      return (.text (String.ofList text), behind) := rfl

theorem readValue_emptyArray {behind : List Char} (closed : skipSpace cs = ']' :: behind) :
    readValue limit (fuel + 1) ('[' :: cs) = .ok (.list [], behind) := by
  rw [readValue, closed]
  rfl

theorem readValue_array (filled : ∀ behind, skipSpace cs ≠ ']' :: behind) :
    readValue limit (fuel + 1) ('[' :: cs) = do
      let (items, behind) ← readItems limit fuel (skipSpace cs)
      return (.list items, behind) := by
  rw [readValue]
  split
  · rename_i behind closed
    exact absurd closed (filled behind)
  · rfl

theorem readValue_emptyObject {behind : List Char} (closed : skipSpace cs = '}' :: behind) :
    readValue limit (fuel + 1) ('{' :: cs) = .ok (.dict [], behind) := by
  rw [readValue, closed]
  rfl

theorem readValue_object (filled : ∀ behind, skipSpace cs ≠ '}' :: behind) :
    readValue limit (fuel + 1) ('{' :: cs) = do
      let (entries, behind) ← readMembers limit fuel (skipSpace cs)
      return (.dict (Datum.ofEntries entries), behind) := by
  rw [readValue]
  split
  · rename_i behind closed
    exact absurd closed (filled behind)
  · rfl

theorem readValue_scalar {c : Char} (noQuote : c ≠ '"') (noBracket : c ≠ '[') (noBrace : c ≠ '{') :
    readValue limit (fuel + 1) (c :: cs) = do
      let (value, behind) ← readScalar limit (c :: cs)
      return (.scalar value, behind) := by
  rw [readValue]
  all_goals
    rintro behind same
    cases same
    contradiction

end Equations

end Logicless.Json
