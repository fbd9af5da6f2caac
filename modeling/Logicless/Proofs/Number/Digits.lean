import Logicless.Number.Reading
import Logicless.Proofs.Reading
import Mathlib.Algebra.Group.Nat.Defs

/-!
Reading digits. Digits to a base, without a mark of the base, spell an integer unless they are more
than a limit allows for; decimal digits with a point and an exponent spell a floating-point number.
-/

set_option autoImplicit false

namespace Logicless.Number

open Text

variable {base : Nat}

theorem isDigitTo_bounds {c : Char} (digit : isDigitTo base c = true) :
    0x30 ≤ c.toNat ∧ c.toNat ≤ 0x7A := by
  unfold isDigitTo at digit
  split at digit
  · rename_i value found
    unfold digitValue? at found
    split at found
    · rename_i common
      exact ⟨common.1, Nat.le_trans common.2 (by decide)⟩
    · split at found
      · rename_i small
        exact ⟨Nat.le_trans (by decide) small.1, small.2⟩
      · split at found
        · rename_i large
          exact ⟨Nat.le_trans (by decide) large.1, Nat.le_trans large.2 (by decide)⟩
        · cases found
  · cases digit

/-- Characters of ASCII from the plus sign on: those of numbers are among them. -/
def IsSolid (c : Char) : Prop := 0x2B ≤ c.toNat ∧ c.toNat < 0x80

theorem isSolid_of_isDigitTo {c : Char} (digit : isDigitTo base c = true) : IsSolid c := by
  have bounds := isDigitTo_bounds digit
  exact ⟨by omega, by omega⟩

theorem isWhite_of_isSolid {c : Char} (solid : IsSolid c) : isWhite c = false := by
  have low := solid.1
  have high := solid.2
  simp [isWhite]
  omega

/-- A number is read as it stands if all its characters are solid. -/
theorem bare_of_isSolid {cs : List Char} (solid : ∀ c ∈ cs, IsSolid c) :
    dropAroundOf isWhite (commonDigits cs) = cs := by
  rw [commonDigits_of_ascii fun c among => (solid c among).2,
    dropAroundOf_of_none fun c among => isWhite_of_isSolid (solid c among)]

/-- Only a sign in front is split off. -/
theorem splitSign_of_head {c : Char} {rest : List Char} (minus : c ≠ '-') (plus : c ≠ '+') :
    splitSign (c :: rest) = (false, c :: rest) := by
  rw [splitSign]
  · rintro behind same
    exact minus (List.cons.inj same).1
  · rintro behind same
    exact plus (List.cons.inj same).1

theorem splitSign_of_isDigitTo {c : Char} (digit : isDigitTo base c = true) (rest : List Char) :
    splitSign (c :: rest) = (false, c :: rest) := by
  have bounds := isDigitTo_bounds digit
  refine splitSign_of_head ?_ ?_
  · rintro rfl
    exact absurd bounds.1 (by decide)
  · rintro rfl
    exact absurd bounds.1 (by decide)

/-- A text does not go on with the digits in front of it. -/
def EndsDigits (cs : List Char) : Prop := ∀ c, cs.head? = some c → isDigitTo 10 c = false

theorem span_digits {digits rest : List Char} (all : ∀ c ∈ digits, isDigitTo 10 c = true)
    (ends : EndsDigits rest) :
    (digits ++ rest).takeWhile (isDigitTo 10) = digits ∧
      (digits ++ rest).dropWhile (isDigitTo 10) = rest := by
  have stops : rest.takeWhile (isDigitTo 10) = [] ∧ rest.dropWhile (isDigitTo 10) = rest := by
    cases rest with
    | nil => exact ⟨rfl, rfl⟩
    | cons c rest =>
        have other : ¬ isDigitTo 10 c = true := by simp [ends c rfl]
        exact ⟨List.takeWhile_cons_of_neg other, List.dropWhile_cons_of_neg other⟩
  rw [List.takeWhile_append_of_pos all, List.dropWhile_append_of_pos all, stops.1, stops.2,
    List.append_nil]
  exact ⟨rfl, rfl⟩

/-- An exponent that is read as one, and that neither digits nor a point start. -/
structure IsPower (cs : List Char) : Prop where
  reads : ∃ power, readExponent? cs = some power
  ends : EndsDigits cs
  noPoint : cs.head? ≠ some '.'

section

variable {whole fraction exponent : List Char}

theorem readDecimal?_point (negative : Bool) (wholeDigits : ∀ c ∈ whole, isDigitTo 10 c = true)
    (fractionDigits : ∀ c ∈ fraction, isDigitTo 10 c = true) (filled : whole ≠ [] ∨ fraction ≠ [])
    (power : IsPower exponent) :
    ∃ value, readDecimal? negative (whole ++ '.' :: (fraction ++ exponent)) = some value := by
  obtain ⟨value, reads⟩ := power.reads
  have point : EndsDigits ('.' :: (fraction ++ exponent)) := by
    intro c first
    cases first
    rfl
  obtain ⟨front, behind⟩ := span_digits wholeDigits point
  obtain ⟨middle, last⟩ := span_digits fractionDigits power.ends
  have some : (whole.isEmpty && fraction.isEmpty) = false := by
    rcases filled with whole | fraction
    · simp [whole]
    · simp [fraction]
  simp only [readDecimal?, front, behind, middle, last, some, reads]
  exact ⟨_, rfl⟩

theorem readDecimal?_whole (negative : Bool) (wholeDigits : ∀ c ∈ whole, isDigitTo 10 c = true)
    (filled : whole ≠ []) (power : IsPower exponent) :
    ∃ value, readDecimal? negative (whole ++ exponent) = some value := by
  obtain ⟨value, reads⟩ := power.reads
  obtain ⟨front, behind⟩ := span_digits wholeDigits power.ends
  have nonempty : whole.isEmpty = false := List.isEmpty_eq_false_iff.mpr filled
  simp only [readDecimal?, front, behind, nonempty, Bool.false_and, Bool.false_eq_true, if_false]
  split
  · rename_i rest
    exact absurd rfl power.noPoint
  · rw [reads]
    exact ⟨_, rfl⟩

end

/-- A number of solid characters is read if its magnitude is. -/
theorem exists_readFloat {cs : List Char} (solid : ∀ c ∈ cs, IsSolid c)
    (reads : ∀ negative, ∃ value, readDecimal? negative (splitSign cs).2 = some value) :
    ∃ value, readFloat cs = .ok value := by
  obtain ⟨value, read⟩ := reads (splitSign cs).1
  simp only [readFloat, bare_of_isSolid solid, read]
  split
  · exact ⟨_, rfl⟩
  · split <;> exact ⟨_, rfl⟩

/-- A text that is no number is named in full. -/
theorem readFloat_ends (cs : List Char) :
    Ends (fun _ => True) (· = .notAFloat (String.ofList cs)) (readFloat cs) := by
  unfold readFloat
  refine .ite (fun _ => .ok trivial) fun _ => .ite (fun _ => .ok trivial) fun _ => ?_
  split
  · exact .ok trivial
  · exact .error rfl

end Logicless.Number
