import Logicless.Proofs.Document.Flaws
import Logicless.Proofs.Json.NumberValue
import Logicless.Proofs.Json.StringForm
import Logicless.Proofs.Number.Digits
import Logicless.Proofs.Reading

/-!
How reading JSON fails. Faults of form and the words for numbers that JSON does not have apart,
nothing but the number of digits of an integer can keep a text from being read: the spelling of
every other number has a value.
-/

set_option autoImplicit false

namespace Logicless.Json

open Number Text Relation

/-- The stops of a reader in a text, with a limit to the digits of an integer. -/
inductive Stop.Explained (limit : Option Nat) (cs : List Char) : Stop → Prop where
  | malformed (fault : Fault) (remaining : Nat) : Explained limit cs (.malformed fault remaining)
  | constant (name : String) : Explained limit cs (.constant name)
  | tooManyDigits {most count : Nat} (limited : limit = some most)
    (long : HoldsLongNumber most cs count) :
    Explained limit cs (.number (.tooManyDigits most count))

theorem IsDigits.isDigitTo {digits : List Char} (form : IsDigits digits) :
    ∀ c ∈ digits, isDigitTo 10 c = true :=
  fun c among => (isDigitTo_ten c).trans (form.digits c among)

theorem IsExponent.isPower {exponent : List Char} (form : IsExponent exponent) :
    IsPower exponent := by
  obtain ⟨noDigit, noPoint⟩ : NoDigit exponent ∧ exponent.head? ≠ some '.' := by
    rw [← List.append_nil exponent]
    exact form.noDigit nofun
  refine ⟨?_, fun c first => (isDigitTo_ten c).trans (noDigit c first), noPoint⟩
  cases form with
  | none => exact ⟨0, rfl⟩
  | @power mark sign digits marked signed behind =>
      have split : ∃ negative, splitSign (sign ++ digits) = (negative, digits) := by
        rcases signed with rfl | rfl | rfl
        · obtain ⟨first, rest, rfl⟩ := List.exists_cons_of_ne_nil behind.filled
          exact ⟨false, splitSign_of_isDigitTo (behind.isDigitTo first List.mem_cons_self) rest⟩
        · exact ⟨false, rfl⟩
        · exact ⟨true, rfl⟩
      obtain ⟨negative, split⟩ := split
      rw [List.cons_append, readExponent?, split]
      exact ⟨_, if_pos ⟨marked, behind.filled, List.all_eq_true.mpr behind.isDigitTo⟩⟩

theorem IsFraction.cases {fraction : List Char} (form : IsFraction fraction) :
    fraction = [] ∨ ∃ digits, fraction = '.' :: digits ∧ IsDigits digits := by
  cases form with
  | none => exact .inl rfl
  | point behind => exact .inr ⟨_, rfl, behind⟩

namespace NumberForm

variable (form : NumberForm)

theorem exists_readDecimal? (negative : Bool) :
    ∃ value, readDecimal? negative form.magnitude = some value := by
  have power := form.isExponent.isPower
  have whole := form.isWhole.toIsDigits.isDigitTo
  rw [magnitude]
  rcases form.isFraction.cases with none | ⟨digits, point, decimal⟩
  · rw [none, List.nil_append]
    exact readDecimal?_whole negative whole form.isWhole.filled power
  · rw [point, List.cons_append]
    exact readDecimal?_point negative whole decimal.isDigitTo (.inl form.isWhole.filled) power

/-- The spelling of a number has a value unless it is that of an integer with too many digits. -/
theorem exists_readFloat : ∃ value, readFloat form.spelling = .ok value := by
  refine Number.exists_readFloat (fun c among => isNumeric_toNat (form.isNumeric_of_mem c among)) ?_
  rw [splitSign_spelling]
  exact form.exists_readDecimal?

end NumberForm

section

variable {limit : Option Nat} {whole cs : List Char}

theorem numberOf_ends (form : NumberForm) (within : form.spelling <:+: whole) :
    Ends (fun _ => True) (Stop.Explained limit whole)
      (numberOf limit form.spelling form.isInt) := by
  unfold numberOf
  cases isInt : form.isInt with
  | false =>
      obtain ⟨value, read⟩ := form.exists_readFloat
      rw [read]
      exact .ok trivial
  | true =>
      rw [form.readIntWithin_spelling, if_pos isInt]
      cases limited : limit.filter (· < form.whole.length) with
      | none => exact .ok trivial
      | some most =>
          obtain ⟨isLimit, beyond⟩ := Option.filter_eq_some_iff.mp limited
          have digits : form.whole <:+: form.spelling :=
            ⟨form.sign, form.fraction ++ form.exponent, by simp [NumberForm.spelling]⟩
          have long : HoldsLongNumber most whole form.whole.length :=
            ⟨by simpa using beyond, form.whole, digits.trans within, rfl, form.isWhole.digits⟩
          exact .error (.tooManyDigits isLimit long)

theorem readScalar_ends (within : cs <:+ whole) :
    Ends (fun read => read.2 <:+ whole) (Stop.Explained limit whole) (readScalar limit cs) := by
  unfold readScalar
  split
  · rename_i word value found
    exact .ok ((List.drop_suffix word.length cs).trans within)
  · exact .error (.constant _)
  · split
    · rename_i spelling isInt behind found
      obtain ⟨form, rfl, rfl, rfl⟩ := exists_form_of_numberPart? found
      have inside : form.spelling <:+: whole :=
        (List.prefix_append form.spelling behind).isInfix.trans within.isInfix
      exact (numberOf_ends form inside).bind fun value _ =>
        .ok ((List.suffix_append form.spelling behind).trans within)
    · exact .error (.malformed _ _)

theorem lowHalf?_ends : Ends (fun _ => True) (Stop.Explained limit whole) (lowHalf? cs) := by
  unfold lowHalf?
  split
  · split
    · exact .ok trivial
    · split
      · exact .error (.malformed _ _)
      · exact .ok trivial
  · exact .ok trivial

theorem readString_ends (start skip : Nat) :
    Ends (fun read => read.2 <:+ cs) (Stop.Explained limit whole) (readString start skip cs) := by
  -- A character in front of a string that was read up to its end.
  have onward {c decoded : Char} {rest : List Char} {skip : Nat}
      (ends : Ends (fun read => read.2 <:+ rest) (Stop.Explained limit whole)
        (readString start skip rest)) :
      Ends (fun read => read.2 <:+ c :: rest) (Stop.Explained limit whole)
        ((readString start skip rest).bind fun read => .ok (decoded :: read.1, read.2)) :=
    ends.bind fun _ inside => .ok (inside.trans (List.suffix_cons c rest))
  fun_induction readString start skip cs with
  | case1 | case4 | case6 | case7 | case10 => exact .error (.malformed _ _)
  | case2 c rest skip ih =>
      exact ih.mono (fun _ inside => inside.trans (List.suffix_cons c rest)) fun _ => id
  | case3 rest => exact .ok (List.suffix_cons _ rest)
  | case5 c rest _ _ _ ih => exact onward ih
  | case8 c _ _ _ more unit _ high ih =>
      simp only [high, if_true]
      exact lowHalf?_ends.bind fun low _ => onward (ih _)
  | case9 c _ _ _ more unit _ single ih =>
      simp only [single]
      exact onward (ih _)
  | case11 c _ _ _ letter rest _ decoded _ ih => exact onward ih

theorem skipSpace_suffix (cs : List Char) : skipSpace cs <:+ cs := List.dropWhile_suffix isSpace

theorem suffix_of_skipSpace {c : Char} {cs rest : List Char} (found : skipSpace cs = c :: rest) :
    rest <:+ cs :=
  ((List.suffix_cons c rest).trans (found ▸ List.suffix_refl _)).trans (skipSpace_suffix cs)

/-- Reading keeps to the text, gives data without flaws, and stops for reasons that the text shows. -/
abbrev EndsWithin (limit : Option Nat) (whole : List Char) {α : Type} (free : α → Prop) :
    Except Stop (α × List Char) → Prop :=
  Ends (fun read => read.2 <:+ whole ∧ free read.1) (Stop.Explained limit whole)

mutual

theorem readValue_ends (fuel : Nat) {cs : List Char} (within : cs <:+ whole) :
    EndsWithin limit whole Datum.Flawless (readValue limit fuel cs) := by
  match fuel with
  | 0 => exact .error (.malformed _ _)
  | fuel + 1 =>
    unfold readValue
    split
    · rename_i rest
      have behind := (List.suffix_cons '"' rest).trans within
      exact (readString_ends _ 0).bind fun read inside =>
        .ok ⟨inside.trans behind, Datum.explained_scalar _⟩
    · rename_i rest
      have behind := (List.suffix_cons '[' rest).trans within
      split
      · rename_i last closed
        exact .ok ⟨(suffix_of_skipSpace closed).trans behind, Datum.explained_list (List.forall_mem_nil _)⟩
      · exact (readItems_ends fuel ((skipSpace_suffix rest).trans behind)).bind fun read inside =>
          .ok ⟨inside.1, Datum.explained_list inside.2⟩
    · rename_i rest
      have behind := (List.suffix_cons '{' rest).trans within
      split
      · rename_i last closed
        exact .ok ⟨(suffix_of_skipSpace closed).trans behind, Datum.explained_dict (List.forall_mem_nil _)⟩
      · exact (readMembers_ends fuel ((skipSpace_suffix rest).trans behind)).bind fun read inside =>
          .ok ⟨inside.1, Datum.explained_dict (Datum.forall_ofEntries inside.2)⟩
    · exact (readScalar_ends within).bind fun read inside =>
        .ok ⟨inside, Datum.explained_scalar _⟩

theorem readItems_ends (fuel : Nat) {cs : List Char} (within : cs <:+ whole) :
    EndsWithin limit whole (fun items => ∀ item ∈ items, item.Flawless)
      (readItems limit fuel cs) := by
  match fuel with
  | 0 => exact .error (.malformed _ _)
  | fuel + 1 =>
    unfold readItems
    refine (readValue_ends fuel within).bind fun ⟨item, behind⟩ ⟨inside, free⟩ => ?_
    dsimp only at inside ⊢
    split
    · rename_i last closed
      exact .ok ⟨(suffix_of_skipSpace closed).trans inside, List.forall_mem_singleton.mpr free⟩
    · rename_i rest comma
      have onward := (skipSpace_suffix rest).trans ((suffix_of_skipSpace comma).trans inside)
      exact (readItems_ends fuel onward).bind fun read others =>
        .ok ⟨others.1, List.forall_mem_cons.mpr ⟨free, others.2⟩⟩
    · exact .error (.malformed _ _)

theorem readMembers_ends (fuel : Nat) {cs : List Char} (within : cs <:+ whole) :
    EndsWithin limit whole (fun entries => ∀ entry ∈ entries,
        entry.1.Explained False ∧ entry.2.Flawless)
      (readMembers limit fuel cs) := by
  match fuel with
  | 0 => exact .error (.malformed _ _)
  | fuel + 1 =>
    unfold readMembers
    split
    · rename_i rest
      have behind := (List.suffix_cons '"' rest).trans within
      refine (readString_ends _ 0).bind fun ⟨name, afterName⟩ named => ?_
      dsimp only at named ⊢
      split
      · rename_i value colon
        have onward := (skipSpace_suffix value).trans
          ((suffix_of_skipSpace colon).trans (named.trans behind))
        refine (readValue_ends fuel onward).bind fun ⟨value, behind⟩ ⟨inside, free⟩ => ?_
        dsimp only at inside ⊢
        split
        · rename_i last closed
          exact .ok ⟨(suffix_of_skipSpace closed).trans inside,
            List.forall_mem_singleton.mpr ⟨nofun, free⟩⟩
        · rename_i rest comma
          have onward := (skipSpace_suffix rest).trans ((suffix_of_skipSpace comma).trans inside)
          exact (readMembers_ends fuel onward).bind fun read others =>
            .ok ⟨others.1, List.forall_mem_cons.mpr ⟨⟨nofun, free⟩, others.2⟩⟩
        · exact .error (.malformed _ _)
      · exact .error (.malformed _ _)
    · exact .error (.malformed _ _)

end

end

end Logicless.Json
