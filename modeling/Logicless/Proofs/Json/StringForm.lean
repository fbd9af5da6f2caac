import Logicless.Json.Literal
import Logicless.Json.Reader
import Logicless.Reported

/-!
How strings are spelled in JSON: characters and escapes up to the closing quote. The reader takes
exactly what is spelled like this, and the literal of a text is one of its spellings.
-/

set_option autoImplicit false

namespace Logicless.Json

open Text

/-- No escape of the second half of a pair of surrogates stands at the start of a text. -/
def NoLowHalf (cs : List Char) : Prop :=
  ∀ digits behind low, cs = '\\' :: 'u' :: (digits ++ behind) → hexValue? digits = some low →
    isLowSurrogate low = false

/-- `SpelledChar cs c rest` says that the character `c` is spelled at the start of the text `cs`,
which goes on with `rest`. -/
inductive SpelledChar : List Char → Char → List Char → Prop where
  | plain {c : Char} {rest : List Char} (noQuote : c ≠ '"') (noEscape : c ≠ '\\')
    (noControl : 0x20 ≤ c.toNat) : SpelledChar (c :: rest) c rest
  | letter {letter c : Char} {rest : List Char} (escape : simpleEscape? letter = some c) :
    SpelledChar ('\\' :: letter :: rest) c rest
  | unit {digits rest : List Char} {n : Nat} (value : hexValue? digits = some n)
    (single : isHighSurrogate n = true → NoLowHalf rest) :
    SpelledChar ('\\' :: 'u' :: (digits ++ rest)) (unitChar n) rest
  | pair {digits lowDigits rest : List Char} {high low : Nat} (first : hexValue? digits = some high)
    (isHigh : isHighSurrogate high = true) (second : hexValue? lowDigits = some low)
    (isLow : isLowSurrogate low = true) :
    SpelledChar ('\\' :: 'u' :: (digits ++ '\\' :: 'u' :: (lowDigits ++ rest)))
      (pairChar high low) rest

/-- `SpelledString cs text rest` says that behind an opening quote the text `cs` starts with a
spelling of `text` and a closing quote, and goes on with `rest`. -/
inductive SpelledString : List Char → List Char → List Char → Prop where
  | close {rest : List Char} : SpelledString ('"' :: rest) [] rest
  | char {cs behind text rest : List Char} {c : Char} (first : SpelledChar cs c behind)
    (others : SpelledString behind text rest) : SpelledString cs (c :: text) rest

theorem length_of_hexValue? {digits : List Char} {n : Nat} (value : hexValue? digits = some n) :
    digits.length = 4 := by
  unfold hexValue? at value
  split at value
  · rename_i four
    exact four.1
  · cases value

/-- The digits of a code unit, cut from the front of a text. -/
theorem cut_digits {digits rest : List Char} {n : Nat} (value : hexValue? digits = some n)
    (more : rest ≠ []) :
    ¬ (digits ++ rest).length < 5 ∧ (digits ++ rest).take 4 = digits ∧
      (digits ++ rest).drop 4 = rest := by
  have four := length_of_hexValue? value
  have filled := List.length_pos_iff.mpr more
  refine ⟨?_, List.take_left' four, List.drop_left' four⟩
  rw [List.length_append]
  omega

theorem SpelledChar.length_lt {cs rest : List Char} {c : Char} (spelled : SpelledChar cs c rest) :
    rest.length < cs.length := by
  cases spelled <;> simp <;> omega

theorem SpelledString.length_lt {cs text rest : List Char} (spelled : SpelledString cs text rest) :
    rest.length < cs.length := by
  induction spelled with
  | close => simp
  | char first others ih =>
      have shorter := first.length_lt
      omega

theorem readString_skip (start : Nat) (front cs : List Char) :
    readString start front.length (front ++ cs) = readString start 0 cs := by
  induction front with
  | nil => rfl
  | cons c front ih =>
      rw [List.cons_append, List.length_cons, readString.eq_def]
      exact ih

theorem readString_plain {c : Char} (noQuote : c ≠ '"') (noEscape : c ≠ '\\')
    (noControl : 0x20 ≤ c.toNat) (start : Nat) (rest : List Char) :
    readString start 0 (c :: rest) =
      (readString start 0 rest).bind fun read => .ok (c :: read.1, read.2) := by
  have printable : ¬ c.toNat < 0x20 := by omega
  rw [readString.eq_def]
  simp only [if_neg noQuote, if_neg printable, if_pos noEscape]
  rfl

/-- The reader at an escape of one letter. -/
theorem readString_letterEscape {letter : Char} (noUnit : letter ≠ 'u') (start : Nat)
    (rest : List Char) :
    readString start 0 ('\\' :: letter :: rest) =
      match simpleEscape? letter with
      | none => faultAt .escape ('\\' :: letter :: rest)
      | some decoded =>
        (readString start 0 rest).bind fun read => .ok (decoded :: read.1, read.2) := by
  have skipped := readString_skip start [letter] rest
  rw [List.length_singleton, List.singleton_append] at skipped
  rw [readString, if_neg (by decide), if_neg (by decide), if_neg (by decide)]
  · cases simpleEscape? letter with
    | none => rfl
    | some decoded =>
        rw [← skipped]
        rfl
  · exact noUnit

/-- The reader at an escape of a code unit. -/
theorem readString_unitEscape (start : Nat) (rest : List Char) :
    readString start 0 ('\\' :: 'u' :: rest) =
      match if rest.length < 5 then none else hexValue? (rest.take 4) with
      | none => faultAt .unicodeEscape ('u' :: rest)
      | some unit => do
        let low ← if isHighSurrogate unit then lowHalf? (rest.drop 4) else .ok none
        let (decoded, length) := match low with
          | some low => (pairChar unit low, 11)
          | none => (unitChar unit, 5)
        let (text, behind) ← readString start length ('u' :: rest)
        return (decoded :: text, behind) := rfl

theorem readString_letter {letter c : Char} (escape : simpleEscape? letter = some c) (start : Nat)
    (rest : List Char) :
    readString start 0 ('\\' :: letter :: rest) =
      (readString start 0 rest).bind fun read => .ok (c :: read.1, read.2) := by
  have noUnit : letter ≠ 'u' := by
    rintro rfl
    cases escape
  rw [readString_letterEscape noUnit, escape]

theorem lowHalf?_unit {digits rest : List Char} {n : Nat} (value : hexValue? digits = some n)
    (more : rest ≠ []) :
    lowHalf? ('\\' :: 'u' :: (digits ++ rest)) =
      .ok (if isLowSurrogate n then some n else none) := by
  obtain ⟨long, front, -⟩ := cut_digits value more
  simp only [lowHalf?, if_neg long, front, value]

/-- The reader at a single escape of a code unit: no second half of a pair follows the first half of
one. -/
theorem readString_unit {digits rest : List Char} {n : Nat} (value : hexValue? digits = some n)
    (more : rest ≠ []) (single : isHighSurrogate n = true → lowHalf? rest = .ok none) (start : Nat) :
    readString start 0 ('\\' :: 'u' :: (digits ++ rest)) =
      (readString start 0 rest).bind fun read => .ok (unitChar n :: read.1, read.2) := by
  obtain ⟨long, front, behind⟩ := cut_digits value more
  have skipped : readString start 5 ('u' :: (digits ++ rest)) = readString start 0 rest := by
    have all := readString_skip start ('u' :: digits) rest
    rwa [List.length_cons, length_of_hexValue? value] at all
  rw [readString_unitEscape]
  simp only [if_neg long, front, behind, value]
  by_cases high : isHighSurrogate n = true
  · rw [if_pos high, single high, ← skipped]
    rfl
  · rw [if_neg high, ← skipped]
    rfl

theorem readString_pair {digits lowDigits rest : List Char} {high low : Nat}
    (first : hexValue? digits = some high) (isHigh : isHighSurrogate high = true)
    (second : hexValue? lowDigits = some low) (isLow : isLowSurrogate low = true)
    (more : rest ≠ []) (start : Nat) :
    readString start 0 ('\\' :: 'u' :: (digits ++ '\\' :: 'u' :: (lowDigits ++ rest))) =
      (readString start 0 rest).bind fun read => .ok (pairChar high low :: read.1, read.2) := by
  have escaped : '\\' :: 'u' :: (lowDigits ++ rest) ≠ [] := List.cons_ne_nil _ _
  obtain ⟨long, front, behind⟩ := cut_digits first escaped
  have partner : lowHalf? ('\\' :: 'u' :: (lowDigits ++ rest)) = .ok (some low) := by
    rw [lowHalf?_unit second more, if_pos isLow]
  have skipped : readString start 11 ('u' :: (digits ++ '\\' :: 'u' :: (lowDigits ++ rest))) =
      readString start 0 rest := by
    have all := readString_skip start ('u' :: digits ++ '\\' :: 'u' :: lowDigits) rest
    simp only [List.cons_append, List.append_assoc, List.length_cons, List.length_append,
      length_of_hexValue? first, length_of_hexValue? second] at all
    exact all
  rw [readString_unitEscape]
  simp only [if_neg long, front, behind, first]
  rw [if_pos isHigh, partner, ← skipped]
  -- The sum that makes up a pair must not be evaluated.
  generalize pairChar = join
  rfl

theorem SpelledString.ne_nil {cs text rest : List Char} (spelled : SpelledString cs text rest) :
    cs ≠ [] := by
  rintro rfl
  cases spelled.length_lt

/-- No malformed escape stands at the start of what is spelled. -/
theorem SpelledString.lowHalf? {cs text rest : List Char} (spelled : SpelledString cs text rest)
    (single : NoLowHalf cs) : lowHalf? cs = .ok none := by
  cases spelled with
  | close => rfl
  | char first others =>
      cases first with
      | plain noQuote noEscape noControl =>
          unfold Json.lowHalf?
          split
          · rename_i same
            exact absurd (List.cons.inj same).1 noEscape
          · rfl
      | letter escape =>
          unfold Json.lowHalf?
          split
          · rename_i same
            cases same
            cases escape
          · rfl
      | unit value follow =>
          have notLow := single _ _ _ rfl value
          rw [lowHalf?_unit value others.ne_nil, notLow]
          rfl
      | pair value isHigh second isLow =>
          have notLow := single _ _ _ rfl value
          rw [lowHalf?_unit value (by simp), notLow]
          rfl

/-- The reader takes what is spelled. -/
theorem readString_of_spelled {cs text rest : List Char} (spelled : SpelledString cs text rest)
    (start : Nat) : readString start 0 cs = .ok (text, rest) := by
  induction spelled with
  | close => rfl
  | @char cs behind text rest c first others ih =>
      have step : readString start 0 cs =
          (readString start 0 behind).bind fun read => .ok (c :: read.1, read.2) := by
        cases first with
        | plain noQuote noEscape noControl =>
            exact readString_plain noQuote noEscape noControl start behind
        | letter escape => exact readString_letter escape start behind
        | unit value single =>
            have follow := fun high => others.lowHalf? (single high)
            exact readString_unit value others.ne_nil follow start
        | pair value isHigh second isLow =>
            exact readString_pair value isHigh second isLow others.ne_nil start
      rw [step, ih]
      rfl

/-- A code unit is read only in front of something. -/
theorem readString_unit_fails {cs : List Char} (short : cs.length < 5 ∨ hexValue? (cs.take 4) = none)
    (start : Nat) : readString start 0 ('\\' :: 'u' :: cs) = faultAt .unicodeEscape ('u' :: cs) := by
  rw [readString_unitEscape]
  rcases short with short | none
  · simp only [if_pos short]
  · simp only [none, ite_self]

theorem lowHalf?_eq_some {cs : List Char} {low : Nat} (found : lowHalf? cs = .ok (some low)) :
    ∃ digits behind, cs = '\\' :: 'u' :: (digits ++ behind) ∧ behind ≠ [] ∧
      hexValue? digits = some low ∧ isLowSurrogate low = true := by
  unfold lowHalf? at found
  split at found
  · rename_i rest
    split at found
    · cases found
    · rename_i long
      split at found
      · cases found
      · rename_i value
        split at found
        · rename_i isLow
          cases found
          refine ⟨rest.take 4, rest.drop 4, ?_, ?_, value, isLow⟩
          · rw [List.take_append_drop]
          · intro none
            rw [List.drop_eq_nil_iff] at none
            omega
        · cases found
  · cases found

theorem noLowHalf_of_read {start : Nat} {cs text rest : List Char} (found : lowHalf? cs = .ok none)
    (read : readString start 0 cs = .ok (text, rest)) : NoLowHalf cs := by
  rintro digits behind low rfl value
  have four := length_of_hexValue? value
  cases behind with
  | nil =>
      have short : (digits ++ []).length < 5 := by simp [four]
      rw [readString_unit_fails (.inl short)] at read
      cases read
  | cons c behind =>
      rw [lowHalf?_unit value (List.cons_ne_nil c behind)] at found
      by_cases isLow : isLowSurrogate low = true
      · rw [if_pos isLow] at found
        cases found
      · exact Bool.eq_false_iff.mpr isLow

/-- What one step of the reader takes from the inside of a string. -/
inductive StringStep (start : Nat) (cs text rest : List Char) : Prop where
  | close (quote : cs = '"' :: rest) (done : text = []) : StringStep start cs text rest
  | char {c : Char} {others behind : List Char} (more : text = c :: others)
    (first : SpelledChar cs c behind) (read : readString start 0 behind = .ok (others, rest)) :
    StringStep start cs text rest

theorem stringStep_unit {start : Nat} {cs text rest : List Char}
    (read : readString start 0 ('\\' :: 'u' :: cs) = .ok (text, rest)) :
    StringStep start ('\\' :: 'u' :: cs) text rest := by
  by_cases short : cs.length < 5 ∨ hexValue? (cs.take 4) = none
  · rw [readString_unit_fails short] at read
    cases read
  obtain ⟨long, some⟩ := not_or.mp short
  obtain ⟨n, value⟩ := Option.ne_none_iff_exists'.mp some
  have more : cs.drop 4 ≠ [] := by
    rw [ne_eq, List.drop_eq_nil_iff]
    omega
  have split : cs.take 4 ++ cs.drop 4 = cs := List.take_append_drop 4 cs
  generalize cs.take 4 = digits at value split
  generalize cs.drop 4 = behind at more split
  subst split
  by_cases high : isHighSurrogate n = true
  · cases found : lowHalf? behind with
    | error stop =>
        obtain ⟨-, front, last⟩ := cut_digits value more
        rw [readString_unitEscape] at read
        simp only [if_neg long, front, last, value, if_pos high, found] at read
        cases read
    | ok low? =>
        cases low? with
        | none =>
            rw [readString_unit value more fun _ => found] at read
            obtain ⟨⟨others, last⟩, inner, same⟩ := exists_of_bind_eq_ok read
            cases same
            exact .char rfl (.unit value fun _ => noLowHalf_of_read found inner) inner
        | some low =>
            obtain ⟨lowDigits, last, rfl, filled, second, isLow⟩ := lowHalf?_eq_some found
            rw [readString_pair value high second isLow filled] at read
            obtain ⟨⟨others, last⟩, inner, same⟩ := exists_of_bind_eq_ok read
            cases same
            exact .char rfl (.pair value high second isLow) inner
  · rw [readString_unit value more fun isHigh => absurd isHigh high] at read
    obtain ⟨⟨others, last⟩, inner, same⟩ := exists_of_bind_eq_ok read
    cases same
    exact .char rfl (.unit value fun isHigh => absurd isHigh high) inner

theorem stringStep_of_read {start : Nat} {cs text rest : List Char}
    (read : readString start 0 cs = .ok (text, rest)) : StringStep start cs text rest := by
  cases cs with
  | nil => cases read
  | cons c cs =>
      by_cases quote : c = '"'
      · subst quote
        cases read
        exact .close rfl rfl
      by_cases control : c.toNat < 0x20
      · rw [readString.eq_def] at read
        simp only [if_neg quote, if_pos control] at read
        cases read
      by_cases escape : c = '\\'
      · subst escape
        cases cs with
        | nil => cases read
        | cons letter behind =>
            by_cases unit : letter = 'u'
            · subst unit
              exact stringStep_unit read
            · cases decoded : simpleEscape? letter with
              | none =>
                  rw [readString_letterEscape unit, decoded] at read
                  cases read
              | some c =>
                  rw [readString_letter decoded] at read
                  obtain ⟨⟨others, last⟩, inner, same⟩ := exists_of_bind_eq_ok read
                  cases same
                  exact .char rfl (.letter decoded) inner
      · rw [readString_plain quote escape (by omega)] at read
        obtain ⟨⟨others, last⟩, inner, same⟩ := exists_of_bind_eq_ok read
        cases same
        exact .char rfl (.plain quote escape (by omega)) inner

/-- What the reader takes is spelled. -/
theorem spelled_of_readString {start : Nat} {cs text rest : List Char}
    (read : readString start 0 cs = .ok (text, rest)) : SpelledString cs text rest := by
  cases stringStep_of_read read with
  | close quote done =>
      subst quote done
      exact .close
  | char more first others =>
      subst more
      have shorter := first.length_lt
      exact .char first (spelled_of_readString others)
termination_by cs.length

theorem spelledChar_literalChar (c : Char) (rest : List Char) :
    SpelledChar (literalChar c ++ rest) c rest := by
  unfold literalChar
  split
  · exact .letter rfl
  · exact .letter rfl
  · exact .letter rfl
  · exact .letter rfl
  · exact .letter rfl
  · exact .letter rfl
  · exact .letter rfl
  · rename_i noQuote noEscape _ _ _ _ _
    split
    · rename_i control
      have digits : ∀ n < 0x20, hexValue? (hexDigits 4 n) = some n := by decide
      have noSurrogate : ¬ (0xD800 ≤ c.toNat ∧ c.toNat ≤ 0xDFFF) := by omega
      have single : isHighSurrogate c.toNat = true → NoLowHalf rest := by
        intro high
        simp only [isHighSurrogate, Bool.and_eq_true, decide_eq_true_eq] at high
        omega
      have spelled :
          SpelledChar ('\\' :: 'u' :: (hexDigits 4 c.toNat ++ rest)) (unitChar c.toNat) rest :=
        .unit (digits c.toNat control) single
      rw [unitChar, if_neg noSurrogate, Char.ofNat_toNat] at spelled
      exact spelled
    · rename_i printable
      exact .plain noQuote noEscape (by omega)

/-- A literal spells its text. -/
theorem spelledString_literal (text rest : List Char) :
    SpelledString (text.flatMap literalChar ++ '"' :: rest) text rest := by
  induction text with
  | nil => exact .close
  | cons c text ih =>
      rw [List.flatMap_cons, List.append_assoc]
      exact .char (spelledChar_literalChar c _) ih

/-- What is spelled spells one text only. -/
theorem SpelledString.unique {cs text other rest behind : List Char}
    (spelled : SpelledString cs text rest) (again : SpelledString cs other behind) :
    text = other ∧ rest = behind := by
  have read := readString_of_spelled spelled 0
  rw [readString_of_spelled again 0] at read
  cases read
  exact ⟨rfl, rfl⟩

end Logicless.Json
