import Logicless.Json.Reader

/-!
How numbers are spelled in JSON: a sign or none, a whole number without superfluous zeros, and
perhaps a fraction and an exponent. The reader takes exactly such a spelling from the start of a
text, as long as what follows does not go on with it.
-/

set_option autoImplicit false

namespace Logicless.Json

/-- One digit or more. -/
structure IsDigits (cs : List Char) : Prop where
  filled : cs ≠ []
  digits : ∀ c ∈ cs, c.isDigit = true

/-- Digits of which the first is a zero only if it is the only one. -/
structure IsWhole (cs : List Char) : Prop extends IsDigits cs where
  bare : cs.head? = some '0' → cs = ['0']

inductive IsFraction : List Char → Prop where
  | none : IsFraction []
  | point {digits : List Char} (behind : IsDigits digits) : IsFraction ('.' :: digits)

inductive IsExponent : List Char → Prop where
  | none : IsExponent []
  | power {mark : Char} {sign digits : List Char} (marked : mark = 'e' ∨ mark = 'E')
    (signed : sign = [] ∨ sign = ['+'] ∨ sign = ['-']) (behind : IsDigits digits) :
    IsExponent (mark :: sign ++ digits)

structure NumberForm where
  sign : List Char
  whole : List Char
  fraction : List Char
  exponent : List Char
  signed : sign = [] ∨ sign = ['-']
  isWhole : IsWhole whole
  isFraction : IsFraction fraction
  isExponent : IsExponent exponent

namespace NumberForm

def spelling (form : NumberForm) : List Char :=
  form.sign ++ form.whole ++ form.fraction ++ form.exponent

/-- A number with neither a fraction nor an exponent is read as an integer. -/
def isInt (form : NumberForm) : Bool := form.fraction.isEmpty && form.exponent.isEmpty

end NumberForm

theorem IsDigits.of_all {cs : List Char} (filled : cs ≠ []) (all : cs.all Char.isDigit = true) :
    IsDigits cs := ⟨filled, List.all_eq_true.mp all⟩

/-- A spelling starts with a digit, or with a minus and a digit. -/
theorem NumberForm.start (form : NumberForm) :
    ∃ digit rest, digit.isDigit = true ∧
      (form.spelling = digit :: rest ∨ form.spelling = '-' :: digit :: rest) := by
  obtain ⟨digit, rest, start⟩ := List.exists_cons_of_ne_nil form.isWhole.filled
  have isDigit := form.isWhole.digits digit (by simp [start])
  refine ⟨digit, rest ++ form.fraction ++ form.exponent, isDigit, ?_⟩
  rcases form.signed with none | minus
  · exact .inl (by simp [NumberForm.spelling, none, start])
  · exact .inr (by simp [NumberForm.spelling, minus, start])

theorem NumberForm.exists_start (form : NumberForm) :
    ∃ c rest, form.spelling = c :: rest ∧ c ≠ '"' ∧ c ≠ '[' ∧ c ≠ '{' := by
  obtain ⟨digit, rest, isDigit, start | start⟩ := form.start
  · refine ⟨digit, rest, start, ?_, ?_, ?_⟩ <;> rintro rfl <;> cases isDigit
  · exact ⟨'-', digit :: rest, start, by decide, by decide, by decide⟩

def NoDigit (cs : List Char) : Prop := ∀ c, cs.head? = some c → c.isDigit = false

/-- A text that does not go on with a number that stands in front of it. -/
def EndsNumber (cs : List Char) : Prop :=
  ∀ c, cs.head? = some c → c.isDigit = false ∧ c ≠ '.' ∧ c ≠ 'e' ∧ c ≠ 'E'

theorem EndsNumber.noDigit {cs : List Char} (ends : EndsNumber cs) : NoDigit cs :=
  fun c first => (ends c first).1

theorem noDigit_cons {c : Char} (other : c.isDigit = false) (cs : List Char) :
    NoDigit (c :: cs) := by
  intro first same
  cases same
  exact other

theorem spanDigits_append {digits rest : List Char} (all : ∀ c ∈ digits, c.isDigit = true)
    (ends : NoDigit rest) : spanDigits (digits ++ rest) = (digits, rest) := by
  have stops : rest.takeWhile Char.isDigit = [] ∧ rest.dropWhile Char.isDigit = rest := by
    cases rest with
    | nil => exact ⟨rfl, rfl⟩
    | cons c rest =>
        have other := ends c rfl
        exact ⟨List.takeWhile_cons_of_neg (by rw [other]; exact Bool.false_ne_true),
          List.dropWhile_cons_of_neg (by rw [other]; exact Bool.false_ne_true)⟩
  rw [spanDigits, List.takeWhile_append_of_pos all, List.dropWhile_append_of_pos all, stops.1,
    stops.2, List.append_nil]

theorem spanDigits_split (cs : List Char) :
    cs = (spanDigits cs).1 ++ (spanDigits cs).2 ∧ ∀ c ∈ (spanDigits cs).1, c.isDigit = true :=
  ⟨List.takeWhile_append_dropWhile.symm, List.all_eq_true.mp List.all_takeWhile⟩

theorem wholePart?_append {whole rest : List Char} (form : IsWhole whole) (ends : NoDigit rest) :
    wholePart? (whole ++ rest) = some (whole, rest) := by
  cases whole with
  | nil => exact absurd rfl form.filled
  | cons first digits =>
      by_cases zero : first = '0'
      · subst zero
        cases form.bare rfl
        rfl
      · rw [List.cons_append, wholePart?]
        · rw [if_pos (form.digits first List.mem_cons_self), ← List.cons_append,
            spanDigits_append form.digits ends]
        · exact zero

theorem wholePart?_split {cs whole rest : List Char} (found : wholePart? cs = some (whole, rest)) :
    cs = whole ++ rest ∧ IsWhole whole := by
  unfold wholePart? at found
  split at found
  · cases found
    exact ⟨rfl, .of_all nofun rfl, fun _ => rfl⟩
  · rename_i first digits nonzero
    split at found
    · rename_i digit
      rw [spanDigits, List.takeWhile_cons_of_pos digit, List.dropWhile_cons_of_pos digit] at found
      cases found
      refine ⟨congrArg (first :: ·) List.takeWhile_append_dropWhile.symm, ⟨nofun, ?_⟩, ?_⟩
      · intro c among
        rcases List.mem_cons.mp among with rfl | behind
        · exact digit
        · exact List.all_eq_true.mp List.all_takeWhile c behind
      · exact fun zero => absurd (Option.some.inj zero) nonzero
    · cases found
  · cases found

theorem fractionPart_append {fraction rest : List Char} (form : IsFraction fraction)
    (ends : NoDigit rest) (point : fraction = [] → rest.head? ≠ some '.') :
    fractionPart (fraction ++ rest) = (fraction, rest) := by
  cases form with
  | none =>
      rw [List.nil_append]
      cases rest with
      | nil => rfl
      | cons c rest =>
          rw [fractionPart]
          rintro behind same
          cases same
          exact point rfl rfl
  | @point digits behind =>
      rw [List.cons_append, fractionPart, spanDigits_append behind.digits ends]
      exact if_neg (by rw [List.isEmpty_iff]; exact behind.filled)

theorem fractionPart_split {cs fraction rest : List Char}
    (found : fractionPart cs = (fraction, rest)) : cs = fraction ++ rest ∧ IsFraction fraction := by
  unfold fractionPart at found
  split at found
  · rename_i behind
    obtain ⟨split, all⟩ := spanDigits_split behind
    dsimp only at found
    split at found
    · cases found
      exact ⟨rfl, .none⟩
    · rename_i filled
      cases found
      rw [List.isEmpty_iff] at filled
      exact ⟨congrArg ('.' :: ·) split, .point ⟨filled, all⟩⟩
  · cases found
    exact ⟨rfl, .none⟩

def exponentSign (cs : List Char) : List Char × List Char :=
  match cs with
  | '+' :: more => (['+'], more)
  | '-' :: more => (['-'], more)
  | more => ([], more)

theorem exponentPart_cons (c : Char) (rest : List Char) :
    exponentPart (c :: rest) =
      if (c = 'e' ∨ c = 'E') ∧ (spanDigits (exponentSign rest).2).1 ≠ [] then
        (c :: (exponentSign rest).1 ++ (spanDigits (exponentSign rest).2).1,
          (spanDigits (exponentSign rest).2).2)
      else ([], c :: rest) := rfl

theorem exponentSign_split (cs : List Char) :
    cs = (exponentSign cs).1 ++ (exponentSign cs).2 ∧
      ((exponentSign cs).1 = [] ∨ (exponentSign cs).1 = ['+'] ∨ (exponentSign cs).1 = ['-']) := by
  unfold exponentSign
  split
  · exact ⟨rfl, .inr (.inl rfl)⟩
  · exact ⟨rfl, .inr (.inr rfl)⟩
  · exact ⟨rfl, .inl rfl⟩

theorem exponentSign_append {sign digits : List Char}
    (signed : sign = [] ∨ sign = ['+'] ∨ sign = ['-']) (behind : IsDigits digits) (rest : List Char) :
    exponentSign (sign ++ (digits ++ rest)) = (sign, digits ++ rest) := by
  rcases signed with rfl | rfl | rfl
  · cases digits with
    | nil => exact absurd rfl behind.filled
    | cons first digits =>
        have digit := behind.digits first List.mem_cons_self
        rw [List.nil_append, List.cons_append, exponentSign]
        · rintro more same
          cases same
          cases digit
        · rintro more same
          cases same
          cases digit
  · rfl
  · rfl

theorem exponentPart_append {exponent rest : List Char} (form : IsExponent exponent)
    (ends : EndsNumber rest) : exponentPart (exponent ++ rest) = (exponent, rest) := by
  cases form with
  | none =>
      cases rest with
      | nil => rfl
      | cons c rest =>
          obtain ⟨-, -, lower, upper⟩ := ends c rfl
          rw [List.nil_append, exponentPart_cons]
          exact if_neg fun marked => marked.1.elim lower upper
  | @power mark sign digits marked signed behind =>
      rw [List.append_assoc, List.cons_append, exponentPart_cons, exponentSign_append signed behind,
        spanDigits_append behind.digits ends.noDigit]
      exact if_pos ⟨marked, behind.filled⟩

theorem exponentPart_split {cs exponent rest : List Char}
    (found : exponentPart cs = (exponent, rest)) : cs = exponent ++ rest ∧ IsExponent exponent := by
  cases cs with
  | nil =>
      cases found
      exact ⟨rfl, .none⟩
  | cons c behind =>
      rw [exponentPart_cons] at found
      split at found
      · rename_i marked
        cases found
        obtain ⟨split, signed⟩ := exponentSign_split behind
        obtain ⟨digits, all⟩ := spanDigits_split (exponentSign behind).2
        refine ⟨?_, .power marked.1 signed ⟨marked.2, all⟩⟩
        rw [List.append_assoc, ← digits, List.cons_append, ← split]
      · cases found
        exact ⟨rfl, .none⟩

def numberSign (cs : List Char) : List Char × List Char :=
  match cs with
  | '-' :: rest => (['-'], rest)
  | _ => ([], cs)

theorem numberPart?_eq (cs : List Char) :
    numberPart? cs =
      (wholePart? (numberSign cs).2).bind fun whole =>
        let fraction := fractionPart whole.2
        let exponent := exponentPart fraction.2
        some ((numberSign cs).1 ++ whole.1 ++ fraction.1 ++ exponent.1,
          fraction.1.isEmpty && exponent.1.isEmpty, exponent.2) := rfl

theorem numberSign_append {sign whole : List Char} (signed : sign = [] ∨ sign = ['-'])
    (form : IsWhole whole) (rest : List Char) :
    numberSign (sign ++ (whole ++ rest)) = (sign, whole ++ rest) := by
  rcases signed with rfl | rfl
  · cases whole with
    | nil => exact absurd rfl form.filled
    | cons first digits =>
        have digit := form.digits first List.mem_cons_self
        rw [List.nil_append, List.cons_append, numberSign]
        rintro more same
        cases same
        cases digit
  · rfl

theorem numberSign_split (cs : List Char) :
    cs = (numberSign cs).1 ++ (numberSign cs).2 ∧
      ((numberSign cs).1 = [] ∨ (numberSign cs).1 = ['-']) := by
  unfold numberSign
  split
  · exact ⟨rfl, .inr rfl⟩
  · exact ⟨rfl, .inl rfl⟩

theorem IsFraction.noDigit {fraction rest : List Char} (form : IsFraction fraction)
    (ends : NoDigit rest) : NoDigit (fraction ++ rest) := by
  cases form with
  | none => exact ends
  | point behind => exact noDigit_cons rfl _

/-- What follows a number neither goes on with the digits in front of its exponent nor with a
fraction. -/
theorem IsExponent.noDigit {exponent rest : List Char} (form : IsExponent exponent)
    (ends : EndsNumber rest) :
    NoDigit (exponent ++ rest) ∧ (exponent ++ rest).head? ≠ some '.' := by
  cases form with
  | none => exact ⟨ends.noDigit, fun point => (ends '.' point).2.1 rfl⟩
  | power marked signed behind =>
      rcases marked with rfl | rfl
      · exact ⟨noDigit_cons rfl _, by simp⟩
      · exact ⟨noDigit_cons rfl _, by simp⟩

/-- The reader takes a number from the start of a text up to where it ends. -/
theorem numberPart?_spelling (form : NumberForm) {rest : List Char} (ends : EndsNumber rest) :
    numberPart? (form.spelling ++ rest) = some (form.spelling, form.isInt, rest) := by
  obtain ⟨afterFraction, noPoint⟩ := form.isExponent.noDigit ends
  have afterWhole := form.isFraction.noDigit afterFraction
  rw [numberPart?_eq, NumberForm.spelling, List.append_assoc, List.append_assoc, List.append_assoc,
    numberSign_append form.signed form.isWhole, wholePart?_append form.isWhole afterWhole,
    Option.bind_some]
  dsimp only
  rw [fractionPart_append form.isFraction afterFraction fun _ => noPoint]
  dsimp only
  rw [exponentPart_append form.isExponent ends]
  rfl

/-- What the reader takes for a number is spelled like one. -/
theorem exists_form_of_numberPart? {cs spelling rest : List Char} {isInt : Bool}
    (found : numberPart? cs = some (spelling, isInt, rest)) :
    ∃ form : NumberForm, form.spelling = spelling ∧ form.isInt = isInt ∧ cs = spelling ++ rest := by
  rw [numberPart?_eq] at found
  obtain ⟨⟨whole, behind⟩, wholeFound, found⟩ := Option.bind_eq_some_iff.mp found
  obtain ⟨split, signed⟩ := numberSign_split cs
  obtain ⟨wholeSplit, isWhole⟩ := wholePart?_split wholeFound
  obtain ⟨fractionSplit, isFraction⟩ := fractionPart_split (Prod.eta (fractionPart behind)).symm
  obtain ⟨exponentSplit, isExponent⟩ :=
    exponentPart_split (Prod.eta (exponentPart (fractionPart behind).2)).symm
  cases found
  refine ⟨⟨_, whole, _, _, signed, isWhole, isFraction, isExponent⟩, rfl, rfl, ?_⟩
  rw [List.append_assoc, List.append_assoc, List.append_assoc, ← exponentSplit, ← fractionSplit,
    ← wholeSplit, ← split]

end Logicless.Json
