import Mathlib.Data.List.Infix

/-!
What a computation that may fail comes to: a value of one kind or an error of another. Reading is
followed from the left to the right of a text, so what is left to read stays an end of that text.
-/

set_option autoImplicit false

namespace Logicless

/-- A computation ends with a value of one kind, or with an error of one. -/
inductive Ends {ε α : Type} (value : α → Prop) (error : ε → Prop) : Except ε α → Prop where
  | ok {found : α} (holds : value found) : Ends value error (.ok found)
  | error {failure : ε} (fails : error failure) : Ends value error (.error failure)

namespace Ends

variable {ε φ α β : Type} {value : α → Prop} {error : ε → Prop} {result : Except ε α}

@[simp] theorem ok_iff {found : α} : Ends value error (.ok found) ↔ value found :=
  ⟨fun (.ok holds) => holds, .ok⟩

@[simp] theorem error_iff {failure : ε} : Ends value error (.error failure) ↔ error failure :=
  ⟨fun (.error fails) => fails, .error⟩

theorem of_ok {found : α} (ends : Ends value error result) (same : result = .ok found) :
    value found := by
  subst same
  exact ok_iff.mp ends

theorem bind {other : β → Prop} {next : α → Except ε β} (first : Ends value error result)
    (rest : ∀ found, value found → Ends other error (next found)) :
    Ends other error (result.bind next) := by
  cases first with
  | ok holds => exact rest _ holds
  | error fails => exact .error fails

theorem mono {other : α → Prop} {failing : ε → Prop} (ends : Ends value error result)
    (values : ∀ found, value found → other found)
    (errors : ∀ failure, error failure → failing failure) : Ends other failing result := by
  cases ends with
  | ok holds => exact .ok (values _ holds)
  | error fails => exact .error (errors _ fails)

/-- The value that a computation ends with is the value of it. -/
theorem found (ends : Ends value error result) :
    Ends (fun found => result = .ok found ∧ value found) error result := by
  cases ends with
  | ok holds => exact .ok ⟨rfl, holds⟩
  | error fails => exact .error fails

theorem mapError {failing : φ → Prop} {adapt : ε → φ} (ends : Ends value error result)
    (errors : ∀ failure, error failure → failing (adapt failure)) :
    Ends value failing (result.mapError adapt) := by
  cases ends with
  | ok holds => exact .ok holds
  | error fails => exact .error (errors _ fails)

theorem ite {condition : Prop} [Decidable condition] {other : Except ε α}
    (holds : condition → Ends value error result) (fails : ¬ condition → Ends value error other) :
    Ends value error (if condition then result else other) := by
  split
  · exact holds ‹_›
  · exact fails ‹_›

end Ends

/-- A text holds a number of more digits than a limit. -/
structure HoldsLongNumber (limit : Nat) (cs : List Char) (count : Nat) : Prop where
  beyond : limit < count
  exists_digits : ∃ digits, digits <:+: cs ∧ digits.length = count ∧ ∀ c ∈ digits, c.isDigit = true

theorem HoldsLongNumber.mono {limit count : Nat} {cs whole : List Char} (within : cs <:+: whole)
    (long : HoldsLongNumber limit cs count) : HoldsLongNumber limit whole count := by
  obtain ⟨digits, inside, length, all⟩ := long.exists_digits
  exact ⟨long.beyond, digits, inside.trans within, length, all⟩

end Logicless
