import Logicless.Proofs.Json.NumberForm

/-!
What numbers of JSON are read as. A spelling with neither a fraction nor an exponent is read as an
integer, if a limit to the digits allows for it, and no other spelling is. The text of an integer is
such a spelling.
-/

set_option autoImplicit false

namespace Logicless.Json

open Number Text

def isNumeric (c : Char) : Bool :=
  c.isDigit || c = '-' || c = '+' || c = '.' || c = 'e' || c = 'E'

theorem IsFraction.isNumeric {fraction : List Char} (form : IsFraction fraction) :
    ∀ c ∈ fraction, isNumeric c = true := by
  cases form with
  | none => nofun
  | point behind =>
      intro c among
      rcases List.mem_cons.mp among with rfl | digit
      · rfl
      · simp only [Json.isNumeric, behind.digits c digit, Bool.true_or]

theorem IsExponent.isNumeric {exponent : List Char} (form : IsExponent exponent) :
    ∀ c ∈ exponent, isNumeric c = true := by
  cases form with
  | none => nofun
  | power marked signed behind =>
      intro c among
      rcases List.mem_append.mp among with front | digit
      · rcases List.mem_cons.mp front with rfl | sign
        · rcases marked with rfl | rfl <;> rfl
        · rcases signed with rfl | rfl | rfl
          · cases sign
          · cases List.mem_singleton.mp sign
            rfl
          · cases List.mem_singleton.mp sign
            rfl
      · simp only [Json.isNumeric, behind.digits c digit, Bool.true_or]

theorem isNumeric_toNat {c : Char} (numeric : isNumeric c = true) :
    0x2B ≤ c.toNat ∧ c.toNat < 0x80 := by
  simp only [isNumeric, Bool.or_eq_true, decide_eq_true_eq, Char.isDigit_iff_toNat] at numeric
  rcases numeric with ((((digit | rfl) | rfl) | rfl) | rfl) | rfl
  · have low : 48 ≤ c.toNat := digit.1
    have high : c.toNat ≤ 57 := digit.2
    omega
  all_goals decide

theorem isWhite_of_isNumeric {c : Char} (numeric : isNumeric c = true) : isWhite c = false := by
  have bounds := isNumeric_toNat numeric
  simp [isWhite]
  omega

theorem isDigitTo_ten (c : Char) : isDigitTo 10 c = c.isDigit := by
  have order : '0' ≤ c ∧ c ≤ '9' ↔ c.isDigit = true := by
    rw [Char.isDigit_iff_toNat]
    rfl
  by_cases common : '0' ≤ c ∧ c ≤ '9'
  · have high : c.toNat ≤ '9'.toNat := common.2
    have bound : '9'.toNat < '0'.toNat + 10 := by decide
    rw [isDigitTo, digitValue?, if_pos common, order.mp common]
    simp only [decide_eq_true_eq]
    omega
  · have other : c.isDigit = false := Bool.eq_false_iff.mpr fun digit => common (order.mpr digit)
    rw [isDigitTo, digitValue?, if_neg common, other]
    -- Letters are digits too, but all of them stand for ten or more.
    split
    · rename_i value found
      split at found
      · cases found
        simp
      · split at found
        · cases found
          simp
        · cases found
    · rfl

theorem withoutBaseMark_ten (cs : List Char) : withoutBaseMark 10 cs = cs := by
  unfold withoutBaseMark
  split <;> simp

theorem IsFraction.all_isDigit {fraction : List Char} (form : IsFraction fraction) :
    fraction.all Char.isDigit = fraction.isEmpty := by
  cases form <;> rfl

theorem IsExponent.all_isDigit {exponent : List Char} (form : IsExponent exponent) :
    exponent.all Char.isDigit = exponent.isEmpty := by
  cases form with
  | none => rfl
  | power marked signed behind => rcases marked with rfl | rfl <;> rfl

namespace NumberForm

variable (form : NumberForm)

def magnitude : List Char := form.whole ++ (form.fraction ++ form.exponent)

theorem spelling_eq : form.spelling = form.sign ++ form.magnitude := by
  rw [spelling, magnitude, List.append_assoc, List.append_assoc]

theorem isNumeric_of_mem : ∀ c ∈ form.spelling, isNumeric c = true := by
  intro c among
  rw [spelling_eq, magnitude] at among
  rcases List.mem_append.mp among with sign | among
  · rcases form.signed with none | minus
    · rw [none] at sign
      cases sign
    · rw [minus] at sign
      cases List.mem_singleton.mp sign
      rfl
  · rcases List.mem_append.mp among with digit | among
    · simp only [isNumeric, form.isWhole.digits c digit, Bool.true_or]
    · rcases List.mem_append.mp among with fraction | exponent
      · exact form.isFraction.isNumeric c fraction
      · exact form.isExponent.isNumeric c exponent

/-- Behind its sign a spelling is all digits exactly if it is that of an integer. -/
theorem all_magnitude : form.magnitude.all Char.isDigit = form.isInt := by
  have whole : form.whole.all Char.isDigit = true := List.all_eq_true.mpr form.isWhole.digits
  rw [magnitude, isInt, List.all_append, List.all_append, whole, form.isFraction.all_isDigit,
    form.isExponent.all_isDigit, Bool.true_and]

theorem magnitude_ne_nil : form.magnitude ≠ [] := by
  have filled := form.isWhole.filled
  simp [magnitude, filled]

theorem magnitude_of_isInt (isInt : form.isInt = true) : form.magnitude = form.whole := by
  simp only [NumberForm.isInt, Bool.and_eq_true, List.isEmpty_iff] at isInt
  rw [magnitude, isInt.1, isInt.2, List.append_nil, List.append_nil]

theorem splitSign_spelling :
    splitSign form.spelling = (decide (form.sign = ['-']), form.magnitude) := by
  rw [spelling_eq]
  rcases form.signed with none | minus
  · have filled := form.isWhole.filled
    have digits := form.isWhole.digits
    rw [none, magnitude]
    cases start : form.whole with
    | nil => exact absurd start filled
    | cons first rest =>
        have digit : first.isDigit = true := digits first (by simp [start])
        rw [List.nil_append, List.cons_append, splitSign]
        · rfl
        · rintro behind same
          cases same
          cases digit
        · rintro behind same
          cases same
          cases digit
  · rw [minus]
    simp [splitSign]

def integer : Int :=
  if form.sign = ['-'] then -(ofDigits 10 form.whole : Int) else (ofDigits 10 form.whole : Int)

theorem readIntWithin_spelling (limit : Option Nat) :
    readIntWithin limit 10 form.spelling =
      if form.isInt then
        match limit.filter (· < form.whole.length) with
        | some most => .error (.tooManyDigits most form.whole.length)
        | none => .ok form.integer
      else .error (.notAnInteger 10 (String.ofList form.spelling)) := by
  have ascii : commonDigits form.spelling = form.spelling :=
    commonDigits_of_ascii fun c among => (isNumeric_toNat (form.isNumeric_of_mem c among)).2
  have tight : dropAroundOf isWhite form.spelling = form.spelling :=
    dropAroundOf_of_none fun c among => isWhite_of_isNumeric (form.isNumeric_of_mem c among)
  have filled : form.magnitude.isEmpty = false :=
    List.isEmpty_eq_false_iff.mpr form.magnitude_ne_nil
  have digits : form.magnitude.all (isDigitTo 10) = form.isInt := by
    rw [← all_magnitude]
    exact congrArg form.magnitude.all (funext isDigitTo_ten)
  simp only [readIntWithin, ascii, tight, splitSign_spelling, withoutBaseMark_ten, filled, digits,
    Bool.false_or]
  cases isInt : form.isInt with
  | false => simp
  | true =>
      have whole := magnitude_of_isInt form isInt
      cases within : limit.filter (· < form.whole.length) <;> simp [whole, within, integer]

end NumberForm

/-- The digits of a number do not start with a zero. -/
theorem head?_toDigits {n : Nat} (positive : 0 < n) : (Nat.toDigits 10 n).head? ≠ some '0' := by
  have single : ∀ m < 10, 0 < m → [Nat.digitChar m].head? ≠ some '0' := by decide
  induction n using Nat.strongRecOn with
  | ind n ih =>
      by_cases small : n < 10
      · rw [Nat.toDigits_of_lt_base small]
        exact single n small positive
      · have tens := ih (n / 10) (by omega) (by omega)
        have filled : Nat.toDigits 10 (n / 10) ≠ [] := Nat.toDigits_ne_nil
        obtain ⟨first, others, split⟩ := List.exists_cons_of_ne_nil filled
        rw [Nat.toDigits_of_base_le (by decide) (by omega)]
        rw [split] at tens ⊢
        exact tens

theorem isWhole_toDigits (n : Nat) : IsWhole (Nat.toDigits 10 n) := by
  refine ⟨⟨Nat.toDigits_ne_nil, ?_⟩, ?_⟩
  · intro c among
    exact Nat.isDigit_of_mem_toDigits (by decide) (by decide) among
  · intro zero
    cases n with
    | zero => rfl
    | succ n => exact absurd zero (head?_toDigits n.succ_pos)

/-- The text of an integer spells it. -/
theorem exists_form_of_int (value : Int) :
    ∃ form : NumberForm, form.spelling = (toString value).toList ∧ form.isInt = true := by
  cases value with
  | ofNat n =>
      refine ⟨⟨[], Nat.toDigits 10 n, [], [], .inl rfl, isWhole_toDigits n, .none, .none⟩, ?_, rfl⟩
      have text : toString (Int.ofNat n) = n.repr := rfl
      rw [text, NumberForm.spelling, Nat.toList_repr, List.nil_append, List.append_nil,
        List.append_nil]
  | negSucc n =>
      refine ⟨⟨['-'], Nat.toDigits 10 (n + 1), [], [], .inr rfl, isWhole_toDigits _, .none, .none⟩,
        ?_, rfl⟩
      have text : toString (Int.negSucc n) = "-" ++ (n + 1).repr := rfl
      rw [text, NumberForm.spelling, String.toList_append, Nat.toList_repr, List.append_nil,
        List.append_nil]
      rfl

end Logicless.Json
