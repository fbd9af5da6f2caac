import Logicless.Document.Datum
import Logicless.Yaml.Error
import Logicless.Yaml.Node
import Logicless.Yaml.Schema

/-!
The data of scalars: what a text means under its tag.
-/

set_option autoImplicit false

namespace Logicless.Yaml

open Number Calendar

def liftNumber {α : Type} (result : Except NumberError α) : Except Error α :=
  result.mapError .number

def liftCalendar {α : Type} (result : Except CalendarError α) : Except Error α :=
  result.mapError .calendar

def withoutUnderscores (cs : List Char) : List Char := cs.filter (· ≠ '_')

/-- The integer of a text: decimal, or to the base that a mark in front names. -/
def intValue (text : List Char) : Except Error Int := do
  let cs := withoutUnderscores text
  if cs.isEmpty then .error (.number .empty)
  else
    let (negative, digits) := splitSign cs
    let magnitude ← liftNumber <| match digits with
      | '0' :: 'b' :: rest => readInt 2 rest
      | '0' :: 'x' :: rest => readInt 16 rest
      | '0' :: 'o' :: rest => readInt 8 rest
      | _ => readInt 10 digits
    return if negative then -magnitude else magnitude

def negate : Binary64 → Binary64
  | .finite value => .finite { value with negative := !value.negative }
  | .infinite negative => .infinite !negative
  | .notANumber => .notANumber

def floatValue (text : List Char) : Except Error Binary64 := do
  let cs := (withoutUnderscores text).map Char.toLower
  if cs.isEmpty then .error (.number .empty)
  else
    let (negative, magnitude) := splitSign cs
    let value ←
      if magnitude = ".inf".toList then .ok (.infinite false)
      else if magnitude = ".nan".toList then .ok .notANumber
      else liftNumber (readFloat magnitude)
    return if negative then negate value else value

/-- The truth value of a word, in any case. -/
def boolValue (text : List Char) : Except Error Bool :=
  let word := String.ofList (text.map Char.toLower)
  if ["yes", "y", "true", "on"].contains word then .ok true
  else if ["no", "n", "false", "off"].contains word then .ok false
  else .error (.word word)

/-- Six digits of a fraction of a second, rounded by the seventh. -/
def microseconds (fraction : List Char) : Nat :=
  let digits := fraction.take 6
  let shown := ofDigits 10 (digits ++ List.replicate (6 - digits.length) '0')
  if (fraction[6]?).any (fun c => '4' < c) then shown + 1 else shown

def zoneValue : Option ZoneText → Except Error (Option Zone)
  | none => .ok none
  | some .universal => .ok (some ⟨0, "Z"⟩)
  | some (.offset negative hours minutes text) => do
    let span : Int := 60 * hours + minutes
    let zone ← liftCalendar (Zone.ofMinutes (if negative then -span else span) (String.ofList text))
    return some zone

def timestampValue (text : List Char) : Except Error Scalar :=
  match readTimestamp? text with
  | none => .error .malformed
  | some timestamp =>
    match timestamp.clock with
    | none => do
      return .date (← liftCalendar (Date.ofFields timestamp.year timestamp.month timestamp.day))
    | some clock => do
      let zone ← zoneValue clock.zone
      let fraction := microseconds clock.fraction
      let moment ← liftCalendar <| Moment.ofFields timestamp.year timestamp.month timestamp.day
        clock.hour clock.minute clock.second (if fraction = 1000000 then 0 else fraction) zone
      if fraction = 1000000 then return .moment (← liftCalendar moment.nextSecond)
      else return .moment moment

/-- The value of a character in base 64. -/
def base64Value? (c : Char) : Option Nat :=
  if 'A' ≤ c ∧ c ≤ 'Z' then some (c.toNat - 'A'.toNat)
  else if 'a' ≤ c ∧ c ≤ 'z' then some (c.toNat - 'a'.toNat + 26)
  else if '0' ≤ c ∧ c ≤ '9' then some (c.toNat - '0'.toNat + 52)
  else if c = '+' then some 62
  else if c = '/' then some 63
  else none

/-- The bytes of a text in base 64. `phase` counts the characters of the present group of four,
`left` holds the bits that are left of them, and `pads` counts the equality signs. Other characters
are passed over; a group that is complete with its equality signs ends the text. -/
def base64Bytes (phase left pads : Nat) : List Char → Except Error (List UInt8)
  | [] => if phase = 0 then .ok [] else .error .malformed
  | c :: rest =>
    if c = '=' then
      if phase < 2 then base64Bytes phase left pads rest
      else if phase + pads + 1 ≥ 4 then .ok []
      else base64Bytes phase left (pads + 1) rest
    else match base64Value? c with
      | none => base64Bytes phase left pads rest
      | some bits =>
        if phase = 0 then base64Bytes 1 bits 0 rest
        else
          let all := left * 64 + bits
          let spare := 64 >>> (2 * phase)
          do
            let bytes ← base64Bytes ((phase + 1) % 4) (all % spare) 0 rest
            return UInt8.ofNat (all / spare) :: bytes

/-- The bytes of a text in base 64, which holds ASCII alone. -/
def binaryValue (text : List Char) : Except Error (List UInt8) :=
  if text.all (·.toNat < 0x80) then base64Bytes 0 0 0 text else .error .malformed

def scalarValue (tag : Tag) (text : List Char) : Except Error Scalar :=
  match tag with
  | .str => .ok (.text (String.ofList text))
  | .int => return .int (← intValue text) none
  | .float => return .float (← floatValue text) none
  | .bool => return .bool (← boolValue text)
  | .null => .ok .null
  | .timestamp => timestampValue text
  | .binary => return .bytes (← binaryValue text)
  | _ => .error .malformed

end Logicless.Yaml
