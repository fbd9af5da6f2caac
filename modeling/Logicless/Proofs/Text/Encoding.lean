import Logicless.Text.Utf8
import Mathlib.Data.Char

/-!
Texts as bytes and back. What a text is written as in UTF-8 is read as that text, whatever its
characters are. Only the line ends are changed by reading a text from a file: each carriage return,
alone or in front of a line feed, becomes a line feed.
-/

set_option autoImplicit false

namespace Logicless.Text

def utf8Bytes (text : String) : List UInt8 := text.toUTF8.data.toList

/-- A text with a line feed in the place of every line end. -/
def withLineFeeds (text : String) : String := String.ofList (unifyNewlines text.toList)

theorem utf8Bytes_eq_flatMap (text : String) :
    utf8Bytes text = text.toList.flatMap String.utf8EncodeChar := by
  obtain ⟨cs, rfl⟩ : ∃ cs, text = String.ofList cs := ⟨text.toList, String.ofList_toList.symm⟩
  rw [utf8Bytes, String.toUTF8, String.toByteArray_ofList, List.utf8Encode,
    List.toList_data_toByteArray, String.toList_ofList]

theorem toNat_byte {n : Nat} (small : n < 256) : (UInt8.ofNat n).toNat = n :=
  UInt8.toNat_ofNat_of_lt small

/-- Bytes of a character that is already read are passed over. -/
theorem decodeUtf8From_skip (offset : Nat) (tail rest : List UInt8) :
    decodeUtf8From offset tail.length (tail ++ rest) =
      decodeUtf8From (offset + tail.length) 0 rest := by
  induction tail generalizing offset with
  | nil => rfl
  | cons b tail ih =>
      rw [List.length_cons, List.cons_append, decodeUtf8From, ih, Nat.add_right_comm, Nat.add_assoc]

section Follow

variable {count low high value good : Nat}

theorem follow_byte {digit : Nat} (small : digit < 64) (lower : low ≤ digit + 128)
    (upper : digit + 128 ≤ high) (rest : List UInt8) :
    follow (count + 1) low high value good (UInt8.ofNat (digit + 128) :: rest) =
      follow count 0x80 0xBF (value * 64 + digit) (good + 1) rest := by
  have byte : (UInt8.ofNat (digit + 128)).toNat = digit + 128 := toNat_byte (by omega)
  have bits : (digit + 128) % 64 = digit := by omega
  rw [follow, byte, if_pos ⟨lower, upper⟩, bits]

/-- Behind the second byte, each byte may hold any six bits. -/
theorem follow_any {digit : Nat} (small : digit < 64) (rest : List UInt8) :
    follow (count + 1) 0x80 0xBF value good (UInt8.ofNat (digit + 128) :: rest) =
      follow count 0x80 0xBF (value * 64 + digit) (good + 1) rest :=
  follow_byte small (by omega) (by omega) rest

end Follow

theorem leadBits_one (first : Nat) : leadBits 1 first = first % 32 := rfl

theorem leadBits_two (first : Nat) : leadBits 2 first = first % 16 := rfl

theorem leadBits_three (first : Nat) : leadBits 3 first = first % 8 := rfl

theorem followers?_two {first : Nat} (lower : 0xC2 ≤ first) (upper : first ≤ 0xDF) :
    followers? first = some (1, 0x80, 0xBF) := if_pos ⟨lower, upper⟩

/-- The second of three bytes is restricted where the text would be too long or a surrogate. -/
theorem followers?_three (first second : Nat) (lower : 0xE0 ≤ first) (upper : first ≤ 0xEF)
    (shortest : first = 0xE0 → 0xA0 ≤ second) (plain : first = 0xED → second ≤ 0x9F)
    (low : 0x80 ≤ second) (high : second ≤ 0xBF) :
    ∃ least most, followers? first = some (2, least, most) ∧ least ≤ second ∧ second ≤ most := by
  have beyond : ¬ (0xC2 ≤ first ∧ first ≤ 0xDF) := by omega
  rw [followers?, if_neg beyond]
  split
  · rename_i zero
    exact ⟨0xA0, 0xBF, rfl, shortest zero, high⟩
  split
  · rename_i thirteen
    exact ⟨0x80, 0x9F, rfl, low, plain thirteen⟩
  · exact ⟨0x80, 0xBF, if_pos ⟨by omega, upper⟩, low, high⟩

/-- The second of four bytes is restricted where the text would be too long or beyond the last
character. -/
theorem followers?_four (first second : Nat) (lower : 0xF0 ≤ first) (upper : first ≤ 0xF4)
    (shortest : first = 0xF0 → 0x90 ≤ second) (inside : first = 0xF4 → second ≤ 0x8F)
    (low : 0x80 ≤ second) (high : second ≤ 0xBF) :
    ∃ least most, followers? first = some (3, least, most) ∧ least ≤ second ∧ second ≤ most := by
  have beyond : ¬ (0xC2 ≤ first ∧ first ≤ 0xDF) := by omega
  have notZero : first ≠ 0xE0 := by omega
  have notThirteen : first ≠ 0xED := by omega
  have notThree : ¬ (0xE1 ≤ first ∧ first ≤ 0xEF) := by omega
  rw [followers?, if_neg beyond, if_neg notZero, if_neg notThirteen, if_neg notThree]
  split
  · rename_i zero
    exact ⟨0x90, 0xBF, rfl, shortest zero, high⟩
  split
  · exact ⟨0x80, 0xBF, rfl, low, high⟩
  · have four : first = 0xF4 := by omega
    exact ⟨0x80, 0x8F, if_pos four, low, inside four⟩

/-- A first byte, followed by bytes that make up a character, is read as that character. -/
theorem decodeUtf8From_lead {first least most : Nat} {tail rest : List UInt8} {c : Char}
    (lower : 0x80 ≤ first) (upper : first < 256)
    (followed : followers? first = some (tail.length, least, most))
    (whole : follow tail.length least most (leadBits tail.length first) 0 (tail ++ rest) =
      .ok c.toNat) (offset : Nat) :
    decodeUtf8From offset 0 (UInt8.ofNat first :: tail ++ rest) =
      (decodeUtf8From (offset + (tail.length + 1)) 0 rest).map (c :: ·) := by
  have large : ¬ first < 0x80 := by omega
  rw [List.cons_append, decodeUtf8From]
  simp only [toNat_byte upper, if_neg large, followed, whole, decodeUtf8From_skip, Char.ofNat_toNat]
  rw [Nat.add_comm tail.length, ← Nat.add_assoc]
  cases decodeUtf8From (offset + 1 + tail.length) 0 rest <;> rfl

/-- The bytes of a character are read as that character. -/
theorem decodeUtf8From_char (c : Char) (offset : Nat) (rest : List UInt8) :
    decodeUtf8From offset 0 (String.utf8EncodeChar c ++ rest) =
      (decodeUtf8From (offset + (String.utf8EncodeChar c).length) 0 rest).map (c :: ·) := by
  have code : c.val.toNat = c.toNat := rfl
  have valid : c.toNat < 0xD800 ∨ (0xDFFF < c.toNat ∧ c.toNat < 0x110000) := c.valid
  rw [String.utf8EncodeChar]
  simp only [code]
  split
  · rename_i one
    have small : (UInt8.ofNat c.toNat).toNat < 0x80 := by
      rw [toNat_byte (by omega)]
      omega
    rw [List.singleton_append, decodeUtf8From]
    simp only [if_pos small]
    rw [toNat_byte (by omega), Char.ofNat_toNat]
    cases decodeUtf8From (offset + 1) 0 rest <;> rfl
  split
  · refine decodeUtf8From_lead (by omega) (by omega) (followers?_two (by omega) (by omega)) ?_ offset
    change follow 1 _ _ (leadBits 1 _) 0 (_ :: rest) = _
    rw [leadBits_one, follow_any (by omega), follow]
    refine congrArg Except.ok ?_
    omega
  split
  · obtain ⟨least, most, followed, lower, upper⟩ :=
      followers?_three (c.toNat / 4096 % 16 + 224) (c.toNat / 64 % 64 + 128)
        (by omega) (by omega) (by omega) (by omega) (by omega) (by omega)
    refine decodeUtf8From_lead (by omega) (by omega) followed ?_ offset
    change follow 2 _ _ (leadBits 2 _) 0 (_ :: _ :: rest) = _
    rw [leadBits_two, follow_byte (by omega) lower upper, follow_any (by omega), follow]
    refine congrArg Except.ok ?_
    omega
  · obtain ⟨least, most, followed, lower, upper⟩ :=
      followers?_four (c.toNat / 262144 % 8 + 240) (c.toNat / 4096 % 64 + 128)
        (by omega) (by omega) (by omega) (by omega) (by omega) (by omega)
    refine decodeUtf8From_lead (by omega) (by omega) followed ?_ offset
    change follow 3 _ _ (leadBits 3 _) 0 (_ :: _ :: _ :: rest) = _
    rw [leadBits_three, follow_byte (by omega) lower upper, follow_any (by omega),
      follow_any (by omega), follow]
    refine congrArg Except.ok ?_
    omega

theorem decodeUtf8From_flatMap (cs : List Char) (offset : Nat) :
    decodeUtf8From offset 0 (cs.flatMap String.utf8EncodeChar) = .ok cs := by
  induction cs generalizing offset with
  | nil => rfl
  | cons c cs ih =>
      rw [List.flatMap_cons, decodeUtf8From_char, ih]
      rfl

/-- What a text is written as is read as that text. -/
theorem decodeUtf8_utf8Bytes (text : String) : decodeUtf8 (utf8Bytes text) = .ok text.toList := by
  rw [utf8Bytes_eq_flatMap, decodeUtf8, decodeUtf8From_flatMap]

theorem unifyNewlines_of_not_mem {cs : List Char} (plain : '\r' ∉ cs) : unifyNewlines cs = cs := by
  induction cs with
  | nil => rfl
  | cons c cs ih =>
      rw [List.mem_cons, not_or] at plain
      rw [unifyNewlines, ih plain.2]
      · rintro rest rfl
        exact absurd rfl plain.1
      · rintro rfl
        exact absurd rfl plain.1

theorem not_mem_unifyNewlines (cs : List Char) : '\r' ∉ unifyNewlines cs := by
  fun_induction unifyNewlines cs with
  | case1 => exact List.not_mem_nil
  | case2 rest ih | case3 rest _ ih =>
      rw [List.mem_cons, not_or]
      exact ⟨by decide, ih⟩
  | case4 c rest _ other ih =>
      rw [List.mem_cons, not_or]
      exact ⟨fun same => other same.symm, ih⟩

/-- The line ends of a text stay as they are if and only if it has no carriage return. -/
theorem withLineFeeds_eq_self_iff (text : String) : withLineFeeds text = text ↔ '\r' ∉ text.toList := by
  rw [withLineFeeds, ← String.toList_inj, String.toList_ofList]
  constructor
  · intro same
    rw [← same]
    exact not_mem_unifyNewlines _
  · exact unifyNewlines_of_not_mem

end Logicless.Text
