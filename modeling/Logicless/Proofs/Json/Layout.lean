import Logicless.Proofs.Json.StringForm

/-!
The layout of JSON. A text is made up of lexemes with white space around them. In its minimal form
the white space is gone and every string stands in its canonical literal.
-/

set_option autoImplicit false

namespace Logicless.Json

/-- The characters of words, numbers and marks: ASCII that is neither blank nor a quote. -/
def isPlainChar (c : Char) : Bool := 0x20 < c.toNat && c.toNat < 0x80 && c != '"'

structure IsPlain (text : List Char) : Prop where
  filled : text ≠ []
  chars : ∀ c ∈ text, isPlainChar c = true

inductive Lexeme where
  /-- A word, a number or a mark. -/
  | plain (text : List Char)
  | string (text : List Char)
deriving Repr, DecidableEq

namespace Lexeme

/-- A bracket or a separator. -/
def mark (c : Char) : Lexeme := .plain [c]

def canonical : Lexeme → List Char
  | .plain text => text
  | .string text => literal text

end Lexeme

/-- The lexemes of a text, with white space in front of, between and behind them. -/
inductive Laid : List Lexeme → List Char → Prop where
  | done : Laid [] []
  | space {lexemes : List Lexeme} {c : Char} {cs : List Char} (blank : isSpace c = true)
    (rest : Laid lexemes cs) : Laid lexemes (c :: cs)
  | plain {lexemes : List Lexeme} {text cs : List Char} (isPlain : IsPlain text)
    (rest : Laid lexemes cs) : Laid (.plain text :: lexemes) (text ++ cs)
  | string {lexemes : List Lexeme} {text cs behind : List Char}
    (spelled : SpelledString cs text behind) (rest : Laid lexemes behind) :
    Laid (.string text :: lexemes) ('"' :: cs)

/-- A text starts with the first of its lexemes, without white space in front of it. -/
def Leads : (lexemes : List Lexeme) → (cs : List Char) → Prop
  | [], cs => cs = []
  | .plain text :: lexemes, cs => IsPlain text ∧ ∃ behind, cs = text ++ behind ∧ Laid lexemes behind
  | .string text :: lexemes, cs =>
    ∃ inside behind, cs = '"' :: inside ∧ SpelledString inside text behind ∧ Laid lexemes behind

/-- `Minified cs minimal` says that `minimal` is the text `cs` without the white space outside of
its strings and with each string in its canonical literal. -/
inductive Minified : List Char → List Char → Prop where
  | done : Minified [] []
  | space {c : Char} {cs minimal : List Char} (blank : isSpace c = true)
    (rest : Minified cs minimal) : Minified (c :: cs) minimal
  | other {c : Char} {cs minimal : List Char} (noSpace : isSpace c = false) (noQuote : c ≠ '"')
    (rest : Minified cs minimal) : Minified (c :: cs) (c :: minimal)
  | string {cs text behind minimal : List Char} (spelled : SpelledString cs text behind)
    (rest : Minified behind minimal) : Minified ('"' :: cs) (literal text ++ minimal)

theorem IsPlain.of_all {text : List Char} (filled : text ≠ []) (all : text.all isPlainChar = true) :
    IsPlain text := ⟨filled, List.all_eq_true.mp all⟩

theorem isSpace_of_isPlainChar {c : Char} (isPlain : isPlainChar c = true) : isSpace c = false := by
  simp only [isPlainChar, Bool.and_eq_true, decide_eq_true_eq] at isPlain
  simp only [isSpace, Bool.or_eq_false_iff, decide_eq_false_iff_not]
  refine ⟨⟨⟨?_, ?_⟩, ?_⟩, ?_⟩
  all_goals
    rintro rfl
    simp at isPlain

theorem ne_quote_of_isPlainChar {c : Char} (isPlain : isPlainChar c = true) : c ≠ '"' := by
  rintro rfl
  cases isPlain

/-- The first character of a plain text. -/
theorem IsPlain.exists_cons {text : List Char} (isPlain : IsPlain text) :
    ∃ c rest, text = c :: rest ∧ isPlainChar c = true := by
  obtain ⟨c, rest, rfl⟩ := List.exists_cons_of_ne_nil isPlain.filled
  exact ⟨c, rest, rfl, isPlain.chars c List.mem_cons_self⟩

theorem skipSpace_space {c : Char} (blank : isSpace c = true) (cs : List Char) :
    skipSpace (c :: cs) = skipSpace cs := List.dropWhile_cons_of_pos blank

theorem skipSpace_other {c : Char} (noSpace : isSpace c = false) (cs : List Char) :
    skipSpace (c :: cs) = c :: cs :=
  List.dropWhile_cons_of_neg (by rw [noSpace]; exact Bool.false_ne_true)

theorem IsPlain.skipSpace_append {text : List Char} (isPlain : IsPlain text) (cs : List Char) :
    skipSpace (text ++ cs) = text ++ cs := by
  obtain ⟨c, rest, rfl, first⟩ := isPlain.exists_cons
  exact skipSpace_other (isSpace_of_isPlainChar first) (rest ++ cs)

namespace Laid

theorem of_skipSpace {lexemes : List Lexeme} {cs : List Char} (laid : Laid lexemes (skipSpace cs)) :
    Laid lexemes cs := by
  induction cs with
  | nil => exact laid
  | cons c cs ih =>
      by_cases blank : isSpace c = true
      · rw [skipSpace_space blank] at laid
        exact .space blank (ih laid)
      · rwa [skipSpace_other (Bool.eq_false_iff.mpr blank)] at laid

theorem leads {lexemes : List Lexeme} {cs : List Char} (laid : Laid lexemes cs) :
    Leads lexemes (skipSpace cs) := by
  induction laid with
  | done => rfl
  | space blank rest ih => rwa [skipSpace_space blank]
  | plain isPlain rest => exact ⟨isPlain, _, isPlain.skipSpace_append _, rest⟩
  | string spelled rest => exact ⟨_, _, skipSpace_other (by decide) _, spelled, rest⟩

theorem length_le {lexemes : List Lexeme} {cs : List Char} (laid : Laid lexemes cs) :
    lexemes.length ≤ cs.length := by
  induction laid with
  | done => simp
  | space blank rest ih =>
      rw [List.length_cons]
      omega
  | plain isPlain rest ih =>
      have filled := List.length_pos_iff.mpr isPlain.filled
      rw [List.length_cons, List.length_append]
      omega
  | string spelled rest ih =>
      have shorter := spelled.length_lt
      rw [List.length_cons, List.length_cons]
      omega

end Laid

namespace Minified

theorem plain {text cs minimal : List Char} (chars : ∀ c ∈ text, isPlainChar c = true)
    (rest : Minified cs minimal) : Minified (text ++ cs) (text ++ minimal) := by
  induction text with
  | nil => exact rest
  | cons c text ih =>
      obtain ⟨first, others⟩ := List.forall_mem_cons.mp chars
      exact .other (isSpace_of_isPlainChar first) (ne_quote_of_isPlainChar first) (ih others)

/-- A text has one minimal form. -/
theorem unique {cs minimal other : List Char} (minified : Minified cs minimal)
    (again : Minified cs other) : minimal = other := by
  induction minified generalizing other with
  | done =>
      cases again
      rfl
  | space blank rest ih =>
      cases again with
      | space _ rest => exact ih rest
      | other noSpace =>
          rw [blank] at noSpace
          cases noSpace
      | string => cases blank
  | other noSpace noQuote rest ih =>
      cases again with
      | space blank =>
          rw [blank] at noSpace
          cases noSpace
      | other _ _ rest => rw [ih rest]
      | string => exact absurd rfl noQuote
  | string spelled rest ih =>
      cases again with
      | space blank => cases blank
      | other _ noQuote => exact absurd rfl noQuote
      | string spelledAgain restAgain =>
          obtain ⟨rfl, rfl⟩ := spelled.unique spelledAgain
          rw [ih restAgain]

end Minified

/-- The minimal form of a text is that of its lexemes. -/
theorem Laid.minified {lexemes : List Lexeme} {cs : List Char} (laid : Laid lexemes cs) :
    Minified cs (lexemes.flatMap Lexeme.canonical) := by
  induction laid with
  | done => exact .done
  | space blank rest ih => exact .space blank ih
  | plain isPlain rest ih => exact ih.plain isPlain.chars
  | string spelled rest ih => exact .string spelled ih

end Logicless.Json
