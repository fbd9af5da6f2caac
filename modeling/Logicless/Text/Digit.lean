/-!
Decimal digits of all scripts, and texts with the common digits in their place. The table lists the
zeros of Unicode 14 outside of ASCII; the other nine digits follow each zero.
-/

set_option autoImplicit false

namespace Logicless.Text

/-- The code points of the zeros, in increasing order. -/
def zeroCodes : List Nat := [
  0x660, 0x6F0, 0x7C0, 0x966, 0x9E6, 0xA66, 0xAE6, 0xB66, 0xBE6, 0xC66, 0xCE6, 0xD66, 0xDE6, 0xE50,
  0xED0, 0xF20, 0x1040, 0x1090, 0x17E0, 0x1810, 0x1946, 0x19D0, 0x1A80, 0x1A90, 0x1B50, 0x1BB0,
  0x1C40, 0x1C50, 0xA620, 0xA8D0, 0xA900, 0xA9D0, 0xA9F0, 0xAA50, 0xABF0, 0xFF10, 0x104A0, 0x10D30,
  0x11066, 0x110F0, 0x11136, 0x111D0, 0x112F0, 0x11450, 0x114D0, 0x11650, 0x116C0, 0x11730,
  0x118E0, 0x11950, 0x11C50, 0x11D50, 0x11DA0, 0x16A60, 0x16AC0, 0x16B50, 0x1D7CE, 0x1D7D8,
  0x1D7E2, 0x1D7EC, 0x1D7F6, 0x1E140, 0x1E2F0, 0x1E950, 0x1FBF0]

/-- The common digit that a digit of another script stands for; other characters stay. -/
def commonDigit (c : Char) : Char :=
  let n := c.toNat
  if n < 0x80 then c
  else match zeroCodes.find? fun first => first ≤ n && n < first + 10 with
    | some first => Nat.digitChar (n - first)
    | none => c

def commonDigits (cs : List Char) : List Char := cs.map commonDigit

theorem commonDigits_of_ascii {cs : List Char} (ascii : ∀ c ∈ cs, c.toNat < 0x80) :
    commonDigits cs = cs := by
  have each : ∀ c ∈ cs, commonDigit c = id c := fun c among => if_pos (ascii c among)
  rw [commonDigits, List.map_congr_left each, List.map_id]

end Logicless.Text
