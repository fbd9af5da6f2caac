import Logicless.Proofs.Json.Failure
import Logicless.Proofs.Number.Digits
import Logicless.Proofs.Reading
import Logicless.Yaml.Value

/-!
The numbers of YAML, in which underscores count as digits. Without them, what is left of a number is
digits to its base, or a decimal number, unless underscores stood in the place of all its digits.
-/

set_option autoImplicit false

namespace Logicless.Yaml

open Number

/-- The base of an integer without a sign, and what stands behind the mark of its base. -/
def markedDigits : List Char → Nat × List Char
  | '0' :: 'b' :: digits => (2, digits)
  | '0' :: 'o' :: digits => (8, digits)
  | '0' :: 'x' :: digits => (16, digits)
  | digits => (10, digits)

/-- A text is made of digits to a base and of underscores. -/
def IsLoose (base : Nat) (cs : List Char) : Prop := ∀ c ∈ cs, isLooseDigit base c = true

/-! ### Underscores -/

theorem withoutUnderscores_eq_nil {cs : List Char} :
    withoutUnderscores cs = [] ↔ ∀ c ∈ cs, c = '_' := by
  simp [withoutUnderscores]

theorem withoutUnderscores_of_none {cs : List Char} (none : ∀ c ∈ cs, c ≠ '_') :
    withoutUnderscores cs = cs :=
  List.filter_eq_self.mpr fun c among => decide_eq_true (none c among)

section

variable {base : Nat} {text digits : List Char}

theorem isDigitTo_of_loose (loose : IsLoose base digits) :
    ∀ c ∈ withoutUnderscores digits, isDigitTo base c = true := by
  intro c among
  obtain ⟨inside, other⟩ := List.mem_filter.mp among
  have digit := loose c inside
  simp only [isLooseDigit, Bool.or_eq_true, decide_eq_true_eq] at digit
  exact digit.resolve_right (of_decide_eq_true other)

/-- A text without underscores, in lower case. -/
def bare (cs : List Char) : List Char := (withoutUnderscores cs).map Char.toLower

theorem bare_append (front behind : List Char) :
    bare (front ++ behind) = bare front ++ bare behind := by
  simp [bare, withoutUnderscores]

theorem toLower_of_isDigit {c : Char} (digit : c.isDigit = true) : c.toLower = c := by
  unfold Char.toLower
  split
  · rename_i upper
    have low : 65 ≤ c.toNat := upper.1
    have high : c.toNat ≤ 57 := (Char.isDigit_iff_toNat.mp digit).2
    omega
  · rfl

theorem map_toLower_digits {digits : List Char} (all : ∀ c ∈ digits, c.isDigit = true) :
    digits.map Char.toLower = digits :=
  (List.map_congr_left fun c among => toLower_of_isDigit (all c among)).trans (List.map_id' digits)

theorem bare_of_loose (loose : IsLoose 10 digits) :
    bare digits = withoutUnderscores digits :=
  map_toLower_digits fun c among =>
    (Json.isDigitTo_ten c).symm.trans (isDigitTo_of_loose loose c among)

theorem bare_of_isExponent {power : List Char} (form : Json.IsExponent power) :
    bare power = power.map Char.toLower := by
  have noMark : ∀ c ∈ power, c ≠ '_' := by
    rintro c among rfl
    exact absurd (form.isNumeric '_' among) (by decide)
  rw [bare, withoutUnderscores_of_none noMark]

theorem isExponent_map_toLower {power : List Char} (form : Json.IsExponent power) :
    Json.IsExponent (power.map Char.toLower) := by
  cases form with
  | none => exact .none
  | @power mark sign digits marked signed behind =>
      rw [List.map_append, List.map_cons, map_toLower_digits behind.digits]
      refine .power ?_ ?_ behind
      · rcases marked with rfl | rfl <;> exact .inl rfl
      · rcases signed with rfl | rfl | rfl
        · exact .inl rfl
        · exact .inr (.inl rfl)
        · exact .inr (.inr rfl)

inductive FloatForm : List Char → Prop where
  | whole {whole power : List Char} (loose : IsLoose 10 whole)
    (filled : withoutUnderscores whole ≠ []) (exponent : Json.IsExponent power) :
    FloatForm (whole ++ power)
  | point {whole fraction power : List Char} (loose : IsLoose 10 whole)
    (filled : whole = [] ∨ withoutUnderscores whole ≠ [])
    (behind : IsLoose 10 fraction) (exponent : Json.IsExponent power) :
    FloatForm (whole ++ '.' :: (fraction ++ power))
  | word {cs : List Char} (word : bare cs = ".inf".toList ∨ bare cs = ".nan".toList) : FloatForm cs

/-- The digits of a number, in front of the rest of it. -/
theorem start_of_loose {whole rest : List Char} (loose : IsLoose 10 whole)
    (filled : withoutUnderscores whole ≠ []) :
    splitSign (bare (whole ++ rest)) = (false, bare (whole ++ rest)) ∧
      bare (whole ++ rest) ≠ [] := by
  have all := isDigitTo_of_loose loose
  rw [bare_append, bare_of_loose loose]
  obtain ⟨c, behind, start⟩ := List.exists_cons_of_ne_nil filled
  rw [start] at all ⊢
  exact ⟨splitSign_of_isDigitTo (all c List.mem_cons_self) _, nofun⟩

theorem FloatForm.start {cs : List Char} (form : FloatForm cs) :
    splitSign (bare cs) = (false, bare cs) ∧ bare cs ≠ [] := by
  cases form with
  | whole loose filled => exact start_of_loose loose filled
  | point loose filled =>
      rcases filled with rfl | filled
      · exact ⟨rfl, nofun⟩
      · exact start_of_loose loose filled
  | word word =>
      rcases word with same | same
      · rw [same]
        exact ⟨rfl, nofun⟩
      · rw [same]
        exact ⟨rfl, nofun⟩

theorem isSolid_of_digits {cs : List Char} (all : ∀ c ∈ cs, isDigitTo 10 c = true) :
    ∀ c ∈ cs, IsSolid c := fun c among => isSolid_of_isDigitTo (all c among)

theorem isSolid_of_isExponent {power : List Char} (form : Json.IsExponent power) :
    ∀ c ∈ power, IsSolid c := fun c among => Json.isNumeric_toNat (form.isNumeric c among)

section

variable {whole fraction power : List Char}

theorem exists_readFloat_whole (all : ∀ c ∈ whole, isDigitTo 10 c = true) (filled : whole ≠ [])
    (exponent : Json.IsExponent power) : ∃ value, readFloat (whole ++ power) = .ok value := by
  have sign : splitSign (whole ++ power) = (false, whole ++ power) := by
    obtain ⟨c, rest, rfl⟩ := List.exists_cons_of_ne_nil filled
    exact splitSign_of_isDigitTo (all c List.mem_cons_self) _
  refine exists_readFloat (List.forall_mem_append.mpr
    ⟨isSolid_of_digits all, isSolid_of_isExponent exponent⟩) fun negative => ?_
  rw [sign]
  exact readDecimal?_whole negative all filled exponent.isPower

theorem exists_readFloat_point (all : ∀ c ∈ whole, isDigitTo 10 c = true)
    (decimals : ∀ c ∈ fraction, isDigitTo 10 c = true) (filled : whole ≠ [] ∨ fraction ≠ [])
    (exponent : Json.IsExponent power) :
    ∃ value, readFloat (whole ++ '.' :: (fraction ++ power)) = .ok value := by
  have sign : splitSign (whole ++ '.' :: (fraction ++ power)) =
      (false, whole ++ '.' :: (fraction ++ power)) := by
    cases whole with
    | nil => rfl
    | cons c rest => exact splitSign_of_isDigitTo (all c List.mem_cons_self) _
  have point : IsSolid '.' := ⟨by decide, by decide⟩
  have behind : ∀ c ∈ fraction ++ power, IsSolid c :=
    List.forall_mem_append.mpr ⟨isSolid_of_digits decimals, isSolid_of_isExponent exponent⟩
  refine exists_readFloat (List.forall_mem_append.mpr
    ⟨isSolid_of_digits all, List.forall_mem_cons.mpr ⟨point, behind⟩⟩) fun negative => ?_
  rw [sign]
  exact readDecimal?_point negative all decimals filled exponent.isPower

end

/-- Only a point with underscores behind it, and without a digit, spells no number. -/
theorem FloatForm.ends {cs : List Char} (form : FloatForm cs) (finite : bare cs ≠ ".inf".toList)
    (number : bare cs ≠ ".nan".toList) :
    Ends (fun _ => True)
      (fun error => ∃ gap power, cs = '.' :: (gap ++ power) ∧ (∀ c ∈ gap, c = '_') ∧
        Json.IsExponent power ∧
        error = .notAFloat (String.ofList ('.' :: power.map Char.toLower)))
      (readFloat (bare cs)) := by
  cases form with
  | word word => exact absurd word (not_or.mpr ⟨finite, number⟩)
  | whole loose filled exponent =>
      obtain ⟨value, read⟩ := exists_readFloat_whole (isDigitTo_of_loose loose) filled
        (isExponent_map_toLower exponent)
      rw [bare_append, bare_of_loose loose, bare_of_isExponent exponent, read]
      exact .ok trivial
  | @point whole fraction power loose filled behind exponent =>
      have parts : bare (whole ++ '.' :: (fraction ++ power)) = withoutUnderscores whole ++
          '.' :: (withoutUnderscores fraction ++ power.map Char.toLower) := by
        rw [bare_append, bare_of_loose loose, ← bare_of_loose behind, ← bare_of_isExponent exponent,
          ← bare_append]
        rfl
      rw [parts]
      by_cases digital : withoutUnderscores whole ≠ [] ∨ withoutUnderscores fraction ≠ []
      · obtain ⟨value, read⟩ := exists_readFloat_point (isDigitTo_of_loose loose)
          (isDigitTo_of_loose behind) digital (isExponent_map_toLower exponent)
        rw [read]
        exact .ok trivial
      · obtain ⟨noWhole, noFraction⟩ := not_or.mp digital
        obtain rfl : whole = [] := filled.resolve_right noWhole
        have blank := not_not.mp noFraction
        rw [blank]
        exact (readFloat_ends _).mono (fun _ => id) fun error same =>
          ⟨fraction, power, rfl, withoutUnderscores_eq_nil.mp blank, exponent, same⟩

end

end Logicless.Yaml
