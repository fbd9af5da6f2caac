import Logicless.Document.Datum
import Logicless.Number.Reading
import Logicless.Text.Place

/-!
Reading JSON. Numbers keep their spelling. Of members with one name the last value counts, at the
place of the first. The reader stops at the first fault and says where it is. It takes a limit to the
digits of an integer.
-/

set_option autoImplicit false

namespace Logicless.Json

open Number Text

inductive Fault where
  | expectingValue
  | expectingName
  | expectingColon
  | expectingComma
  | extraData
  | unterminatedString
  | controlCharacter
  | escape
  | unicodeEscape
  | byteOrderMark
deriving Repr, DecidableEq

def Fault.message : Fault → String
  | .expectingValue => "Expecting value"
  | .expectingName => "Expecting property name enclosed in double quotes"
  | .expectingColon => "Expecting ':' delimiter"
  | .expectingComma => "Expecting ',' delimiter"
  | .extraData => "Extra data"
  | .unterminatedString => "Unterminated string starting at"
  | .controlCharacter => "Invalid control character at"
  | .escape => "Invalid \\escape"
  | .unicodeEscape => "Invalid \\uXXXX escape"
  | .byteOrderMark => "Unexpected UTF-8 BOM (decode using utf-8-sig)"

/-- Why reading stopped; a fault is located by the number of characters from it to the end. -/
inductive Stop where
  | malformed (fault : Fault) (remaining : Nat)
  | constant (name : String)
  | number (error : NumberError)
deriving Repr, DecidableEq

def faultAt {α : Type} (fault : Fault) (cs : List Char) : Except Stop α :=
  .error (.malformed fault cs.length)

def isSpace (c : Char) : Bool := c = ' ' || c = '\t' || c = '\n' || c = '\r'

def skipSpace (cs : List Char) : List Char := cs.dropWhile isSpace

/-- The character of a one-letter escape. -/
def simpleEscape? : Char → Option Char
  | '"' => some '"'
  | '\\' => some '\\'
  | '/' => some '/'
  | 'b' => some '\x08'
  | 'f' => some '\x0c'
  | 'n' => some '\n'
  | 'r' => some '\r'
  | 't' => some '\t'
  | _ => none

/-- The value of four hexadecimal digits. -/
def hexValue? (digits : List Char) : Option Nat :=
  if digits.length = 4 ∧ digits.all (isDigitTo 16) then some (ofDigits 16 digits) else none

def isHighSurrogate (n : Nat) : Bool := 0xD800 ≤ n && n ≤ 0xDBFF

def isLowSurrogate (n : Nat) : Bool := 0xDC00 ≤ n && n ≤ 0xDFFF

/-- The character of a code unit; a surrogate without its partner stands for no character and
becomes the replacement character. -/
def unitChar (n : Nat) : Char := if 0xD800 ≤ n ∧ n ≤ 0xDFFF then '\uFFFD' else Char.ofNat n

/-- The character of a pair of surrogates. -/
def pairChar (high low : Nat) : Char :=
  Char.ofNat (0x10000 + (high - 0xD800) * 0x400 + (low - 0xDC00))

/-- The second half of a pair of surrogates at the start of a text, the character behind it
included. -/
def lowHalf? (cs : List Char) : Except Stop (Option Nat) :=
  match cs with
  | '\\' :: 'u' :: rest =>
    if rest.length < 5 then .ok none
    else match hexValue? (rest.take 4) with
      | none => faultAt .unicodeEscape ('u' :: rest)
      | some low => .ok (if isLowSurrogate low then some low else none)
  | _ => .ok none

/-- A string up to its closing quote. `skip` characters belong to an escape that is already read;
`start` counts the characters from the opening quote to the end. -/
def readString (start skip : Nat) : List Char → Except Stop (List Char × List Char)
  | [] => .error (.malformed .unterminatedString start)
  | c :: rest =>
    match skip with
    | skip + 1 => readString start skip rest
    | 0 =>
      if c = '"' then .ok ([], rest)
      else if c.toNat < 0x20 then faultAt .controlCharacter (c :: rest)
      else if c ≠ '\\' then do
        let (text, behind) ← readString start 0 rest
        return (c :: text, behind)
      else match rest with
        | [] => .error (.malformed .unterminatedString start)
        | 'u' :: more =>
          match if more.length < 5 then none else hexValue? (more.take 4) with
          | none => faultAt .unicodeEscape rest
          | some unit => do
            let low ← if isHighSurrogate unit then lowHalf? (more.drop 4) else .ok none
            let (decoded, length) := match low with
              | some low => (pairChar unit low, 11)
              | none => (unitChar unit, 5)
            let (text, behind) ← readString start length rest
            return (decoded :: text, behind)
        | letter :: _ =>
          match simpleEscape? letter with
          | none => faultAt .escape (c :: rest)
          | some decoded => do
            let (text, behind) ← readString start 1 rest
            return (decoded :: text, behind)

/-- The digits at the start of a text and what follows them. -/
def spanDigits (cs : List Char) : List Char × List Char :=
  (cs.takeWhile Char.isDigit, cs.dropWhile Char.isDigit)

/-- A point and the digits behind it, if there are any. -/
def fractionPart (cs : List Char) : List Char × List Char :=
  match cs with
  | '.' :: rest =>
    let (digits, behind) := spanDigits rest
    if digits.isEmpty then ([], cs) else ('.' :: digits, behind)
  | _ => ([], cs)

/-- The letter, the sign and the digits of an exponent, if there are digits. -/
def exponentPart (cs : List Char) : List Char × List Char :=
  match cs with
  | c :: rest =>
    let (sign, magnitude) := match rest with
      | '+' :: more => (['+'], more)
      | '-' :: more => (['-'], more)
      | more => ([], more)
    let (digits, behind) := spanDigits magnitude
    if (c = 'e' ∨ c = 'E') ∧ digits ≠ [] then (c :: sign ++ digits, behind) else ([], cs)
  | [] => ([], cs)

/-- A whole number without superfluous zeros in front. -/
def wholePart? (cs : List Char) : Option (List Char × List Char) :=
  match cs with
  | '0' :: rest => some (['0'], rest)
  | c :: _ => if c.isDigit then some (spanDigits cs) else none
  | [] => none

/-- A number: its spelling, whether it is an integer, and what follows. -/
def numberPart? (cs : List Char) : Option (List Char × Bool × List Char) := do
  let (sign, magnitude) := match cs with
    | '-' :: rest => (['-'], rest)
    | _ => ([], cs)
  let (whole, behind) ← wholePart? magnitude
  let (fraction, behind) := fractionPart behind
  let (exponent, behind) := exponentPart behind
  return (sign ++ whole ++ fraction ++ exponent, fraction.isEmpty && exponent.isEmpty, behind)

/-- The number that a spelling stands for. -/
def numberOf (limit : Option Nat) (spelling : List Char) (isInt : Bool) : Except Stop Scalar :=
  if isInt then
    match readIntWithin limit 10 spelling with
    | .ok value => .ok (.int value (some (String.ofList spelling)))
    | .error error => .error (.number error)
  else
    match readFloat spelling with
    | .ok value => .ok (.float value (some (String.ofList spelling)))
    | .error error => .error (.number error)

/-- The words that stand for a value, and those that only look like a number. -/
def words : List (List Char × Except String Scalar) :=
  [("null".toList, .ok .null), ("true".toList, .ok (.bool true)),
    ("false".toList, .ok (.bool false)), ("NaN".toList, .error "NaN"),
    ("Infinity".toList, .error "Infinity"),
    ("-Infinity".toList, .error "-Infinity")]

/-- A word or a number at the start of a text. -/
def readScalar (limit : Option Nat) (cs : List Char) : Except Stop (Scalar × List Char) :=
  match words.find? fun word => word.1.isPrefixOf cs with
  | some (word, .ok value) => .ok (value, cs.drop word.length)
  | some (_, .error name) => .error (.constant name)
  | none =>
    match numberPart? cs with
    | some (spelling, isInt, behind) => do return (← numberOf limit spelling isInt, behind)
    | none => faultAt .expectingValue cs

mutual

def readValue (limit : Option Nat) : (fuel : Nat) → List Char → Except Stop (Datum × List Char)
  | 0, cs => faultAt .expectingValue cs
  | fuel + 1, cs =>
    match cs with
    | '"' :: rest => do
      let (text, behind) ← readString cs.length 0 rest
      return (.text (String.ofList text), behind)
    | '[' :: rest =>
      match skipSpace rest with
      | ']' :: behind => .ok (.list [], behind)
      | inside => do
        let (items, behind) ← readItems limit fuel inside
        return (.list items, behind)
    | '{' :: rest =>
      match skipSpace rest with
      | '}' :: behind => .ok (.dict [], behind)
      | inside => do
        let (entries, behind) ← readMembers limit fuel inside
        return (.dict (Datum.ofEntries entries), behind)
    | _ => do
      let (value, behind) ← readScalar limit cs
      return (.scalar value, behind)

def readItems (limit : Option Nat) :
    (fuel : Nat) → List Char → Except Stop (List Datum × List Char)
  | 0, cs => faultAt .expectingValue cs
  | fuel + 1, cs => do
    let (item, behind) ← readValue limit fuel cs
    match skipSpace behind with
    | ']' :: behind => return ([item], behind)
    | ',' :: rest =>
      let (items, behind) ← readItems limit fuel (skipSpace rest)
      return (item :: items, behind)
    | other => faultAt .expectingComma other

/-- One or more members up to the closing brace. -/
def readMembers (limit : Option Nat) :
    (fuel : Nat) → List Char → Except Stop (List (Key × Datum) × List Char)
  | 0, cs => faultAt .expectingValue cs
  | fuel + 1, cs =>
    match cs with
    | '"' :: rest => do
      let (name, behind) ← readString cs.length 0 rest
      match skipSpace behind with
      | ':' :: rest =>
        let (value, behind) ← readValue limit fuel (skipSpace rest)
        let entry := (Key.scalar (.text (String.ofList name)), value)
        match skipSpace behind with
        | '}' :: behind => return ([entry], behind)
        | ',' :: rest =>
          let (entries, behind) ← readMembers limit fuel (skipSpace rest)
          return (entry :: entries, behind)
        | other => faultAt .expectingComma other
      | other => faultAt .expectingColon other
    | _ => faultAt .expectingName cs

end

inductive Error where
  | malformed (fault : Fault) (place : Place)
  /-- A number that JSON does not have. -/
  | constant (name : String)
  | number (error : NumberError)
deriving Repr, DecidableEq

def Error.message : Error → String
  | .malformed fault place =>
    "Invalid JSON document: " ++ fault.message ++ ": line " ++ toString place.line ++ " column " ++
      toString place.column ++ " (char " ++ toString place.offset ++ ")"
  | .constant name => "Invalid JSON constant: " ++ name
  | .number error => error.message

def Stop.toError (cs : List Char) : Stop → Error
  | .malformed fault remaining =>
    .malformed fault (Place.start.advance (cs.take (cs.length - remaining)))
  | .constant name => .constant name
  | .number error => .number error

/-- A whole text as one value. -/
def readAll (limit : Option Nat) (cs : List Char) : Except Stop Datum :=
  if cs.head? = some '\uFEFF' then faultAt .byteOrderMark cs
  else do
    let (value, behind) ← readValue limit (2 * cs.length + 1) (skipSpace cs)
    match skipSpace behind with
    | [] => return value
    | other => faultAt .extraData other

/-- The data that a JSON text holds, its integers within a limit. -/
def readWithin (limit : Option Nat) (text : String) : Except Error Datum :=
  (readAll limit text.toList).mapError (Stop.toError text.toList)

def read (text : String) : Except Error Datum := readWithin (some maxDecimalDigits) text

end Logicless.Json
