/-!
UTF-8 bytes as characters. Decoding is strict and says which bytes are at fault. Texts from files
have one kind of line end.
-/

set_option autoImplicit false

namespace Logicless.Text

inductive Utf8Fault where
  | startByte
  | continuationByte
  | unexpectedEnd
deriving Repr, DecidableEq

/-- Bytes that are no UTF-8: the bytes at fault, and how many bytes stand before them. -/
structure Utf8Error where
  fault : Utf8Fault
  offset : Nat
  bytes : List UInt8
deriving Repr, DecidableEq

def Utf8Fault.message : Utf8Fault → String
  | .startByte => "invalid start byte"
  | .continuationByte => "invalid continuation byte"
  | .unexpectedEnd => "unexpected end of data"

def byteDigits (b : UInt8) : String :=
  String.ofList [Nat.digitChar (b.toNat / 16), Nat.digitChar (b.toNat % 16)]

def Utf8Error.message (error : Utf8Error) : String :=
  let where_ := match error.bytes with
    | [b] => "byte 0x" ++ byteDigits b ++ " in position " ++ toString error.offset
    | bytes =>
      "bytes in position " ++ toString error.offset ++ "-" ++
        toString (error.offset + bytes.length - 1)
  "'utf-8' codec can't decode " ++ where_ ++ ": " ++ error.fault.message

/-- The range of the second byte behind a first byte, and how many bytes follow the first. -/
def followers? (first : Nat) : Option (Nat × Nat × Nat) :=
  if 0xC2 ≤ first ∧ first ≤ 0xDF then some (1, 0x80, 0xBF)
  else if first = 0xE0 then some (2, 0xA0, 0xBF)
  else if first = 0xED then some (2, 0x80, 0x9F)
  else if 0xE1 ≤ first ∧ first ≤ 0xEF then some (2, 0x80, 0xBF)
  else if first = 0xF0 then some (3, 0x90, 0xBF)
  else if 0xF1 ≤ first ∧ first ≤ 0xF3 then some (3, 0x80, 0xBF)
  else if first = 0xF4 then some (3, 0x80, 0x8F)
  else none

/-- The bits that a first byte with `count` followers holds. -/
def leadBits (count first : Nat) : Nat := first % (64 >>> count)

/-- The value of `count` further bytes, the first of them in a range, or the number of good ones and
the fault. -/
def follow : (count : Nat) → (low high value good : Nat) → List UInt8 →
    Except (Utf8Fault × Nat) Nat
  | 0, _, _, value, _, _ => .ok value
  | _ + 1, _, _, _, good, [] => .error (.unexpectedEnd, good)
  | count + 1, low, high, value, good, b :: rest =>
    if low ≤ b.toNat ∧ b.toNat ≤ high then
      follow count 0x80 0xBF (value * 64 + b.toNat % 64) (good + 1) rest
    else .error (.continuationByte, good)

/-- The characters of bytes. The first `skip` bytes belong to a character that is already read. -/
def decodeUtf8From (offset skip : Nat) : List UInt8 → Except Utf8Error (List Char)
  | [] => .ok []
  | b :: rest =>
    match skip with
    | skip + 1 => decodeUtf8From (offset + 1) skip rest
    | 0 =>
      if b.toNat < 0x80 then do
        let chars ← decodeUtf8From (offset + 1) 0 rest
        return Char.ofNat b.toNat :: chars
      else match followers? b.toNat with
        | none => .error ⟨.startByte, offset, [b]⟩
        | some (count, low, high) =>
          match follow count low high (leadBits count b.toNat) 0 rest with
          | .error (fault, good) => .error ⟨fault, offset, b :: rest.take good⟩
          | .ok value => do
            let chars ← decodeUtf8From (offset + 1) count rest
            return Char.ofNat value :: chars

def decodeUtf8 (bytes : List UInt8) : Except Utf8Error (List Char) := decodeUtf8From 0 0 bytes

/-- A text with a line feed for each pair of carriage return and line feed, and for each single
carriage return. -/
def unifyNewlines : List Char → List Char
  | [] => []
  | '\r' :: '\n' :: rest => '\n' :: unifyNewlines rest
  | '\r' :: rest => '\n' :: unifyNewlines rest
  | c :: rest => c :: unifyNewlines rest

end Logicless.Text
