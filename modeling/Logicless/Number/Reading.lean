import Logicless.Number.Binary64
import Logicless.Text.Blank
import Logicless.Text.Digit
import Logicless.Text.Quoted

/-!
Reading numbers from texts: integers to a base, and decimal floating-point numbers. White space
around a number is ignored, and digits of all scripts are read. An integer in decimal digits is
limited in length, unless the limit is lifted.
-/

set_option autoImplicit false

namespace Logicless.Number

open Text

/-- The value of a digit, in either case, up to thirty-five. -/
def digitValue? (c : Char) : Option Nat :=
  if '0' ≤ c ∧ c ≤ '9' then some (c.toNat - '0'.toNat)
  else if 'a' ≤ c ∧ c ≤ 'z' then some (c.toNat - 'a'.toNat + 10)
  else if 'A' ≤ c ∧ c ≤ 'Z' then some (c.toNat - 'A'.toNat + 10)
  else none

/-- Whether a character is a digit to a base. -/
def isDigitTo (base : Nat) (c : Char) : Bool :=
  match digitValue? c with
  | some value => value < base
  | none => false

def ofDigits (base : Nat) (digits : List Char) : Nat :=
  digits.foldl (fun value c => value * base + (digitValue? c).getD 0) 0

/-- A number without its sign, and whether the sign is a minus. -/
def splitSign : List Char → Bool × List Char
  | '-' :: rest => (true, rest)
  | '+' :: rest => (false, rest)
  | cs => (false, cs)

/-- The most digits that a decimal integer may have, unless another limit is set. -/
def maxDecimalDigits : Nat := 4300

inductive NumberError where
  | notAnInteger (base : Nat) (text : String)
  | notAFloat (text : String)
  /-- More digits than a decimal integer may have. -/
  | tooManyDigits (limit count : Nat)
  /-- No characters where a number should begin. -/
  | empty
deriving Repr, DecidableEq

def NumberError.message : NumberError → String
  | .notAnInteger base text =>
    "invalid literal for int() with base " ++ toString base ++ ": " ++ quoted text
  | .notAFloat text => "could not convert string to float: " ++ quoted text
  | .tooManyDigits limit count =>
    "Exceeds the limit (" ++ toString limit ++
      " digits) for integer string conversion: value has " ++ toString count ++
      " digits; use sys.set_int_max_str_digits() to increase the limit"
  | .empty => "string index out of range"

/-- An integer of too many decimal digits cannot be written. -/
def isWritable (value : Int) : Bool := (Nat.toDigits 10 value.natAbs).length ≤ maxDecimalDigits

/-- What is said of an integer that cannot be written. -/
def unwritableMessage : String :=
  "Exceeds the limit (" ++ toString maxDecimalDigits ++
    " digits) for integer string conversion; use sys.set_int_max_str_digits() to increase the limit"

/-- Digits without the mark of their base in front: a zero and a letter for the bases two, eight and
sixteen. -/
def withoutBaseMark (base : Nat) (cs : List Char) : List Char :=
  match cs with
  | '0' :: letter :: digits =>
    let marks := (base = 2 ∧ (letter = 'b' ∨ letter = 'B')) ∨
      (base = 8 ∧ (letter = 'o' ∨ letter = 'O')) ∨ (base = 16 ∧ (letter = 'x' ∨ letter = 'X'))
    if marks then digits else cs
  | _ => cs

/-- The integer that a text spells to a base. A limit, if there is one, is the most digits that a
decimal integer may have. -/
def readIntWithin (limit : Option Nat) (base : Nat) (cs : List Char) : Except NumberError Int :=
  let (negative, marked) := splitSign (dropAroundOf isWhite (commonDigits cs))
  let digits := withoutBaseMark base marked
  if digits.isEmpty || !digits.all (isDigitTo base) then
    .error (.notAnInteger base (String.ofList cs))
  else match if base = 10 then limit.filter (· < digits.length) else none with
    | some limit => .error (.tooManyDigits limit digits.length)
    | none =>
      let magnitude : Int := ofDigits base digits
      .ok (if negative then -magnitude else magnitude)

/-- The integer that a text spells to a base, of at most `maxDecimalDigits` if it is decimal. -/
def readInt (base : Nat) (cs : List Char) : Except NumberError Int :=
  readIntWithin (some maxDecimalDigits) base cs

/-- The exponent of a decimal number; no text is the exponent zero. -/
def readExponent? : List Char → Option Int
  | [] => some 0
  | c :: rest =>
    let (negative, digits) := splitSign rest
    if (c = 'e' ∨ c = 'E') ∧ digits ≠ [] ∧ digits.all (isDigitTo 10) then
      let magnitude : Int := ofDigits 10 digits
      some (if negative then -magnitude else magnitude)
    else none

/-- The number that decimal digits with a point and an exponent spell. -/
def readDecimal? (negative : Bool) (cs : List Char) : Option Binary64 :=
  let whole := cs.takeWhile (isDigitTo 10)
  let behind := cs.dropWhile (isDigitTo 10)
  let (fraction, behind) := match behind with
    | '.' :: rest => (rest.takeWhile (isDigitTo 10), rest.dropWhile (isDigitTo 10))
    | _ => ([], behind)
  if whole.isEmpty && fraction.isEmpty then none
  else (readExponent? behind).map fun exponent =>
    Binary64.ofDecimal negative (ofDigits 10 (whole ++ fraction)) (exponent - fraction.length)

def readFloat (cs : List Char) : Except NumberError Binary64 :=
  let (negative, magnitude) := splitSign (dropAroundOf isWhite (commonDigits cs))
  let name := String.ofList (magnitude.map Char.toLower)
  if name = "inf" ∨ name = "infinity" then .ok (.infinite negative)
  else if name = "nan" then .ok .notANumber
  else match readDecimal? negative magnitude with
    | some value => .ok value
    | none => .error (.notAFloat (String.ofList cs))

end Logicless.Number
