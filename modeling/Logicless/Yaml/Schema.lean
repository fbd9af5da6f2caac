import Logicless.Number.Reading
import Logicless.Yaml.Node

/-!
The tags of plain scalars, which show in their text: null, truth values, numbers, points in time,
and strings for the rest.
-/

set_option autoImplicit false

namespace Logicless.Yaml

open Number

def isDecimalDigit (c : Char) : Bool := isDigitTo 10 c

/-- A digit or an underscore. -/
def isLooseDigit (base : Nat) (c : Char) : Bool := isDigitTo base c || c = '_'

/-- Whether a text is one or more characters of a class. -/
def isAllOf (inClass : Char → Bool) (cs : List Char) : Bool := !cs.isEmpty && cs.all inClass

/-- An exponent: the letter, a sign, and digits. -/
def isExponent (signNeeded : Bool) : List Char → Bool
  | [] => false
  | c :: rest =>
    let digits := match rest with
      | '+' :: digits => some digits
      | '-' :: digits => some digits
      | digits => if signNeeded then none else some digits
    (c = 'e' || c = 'E') && digits.any (isAllOf isDecimalDigit)

/-- A decimal number with a digit in front: with a point, an exponent, or both. -/
def isLeadingDecimal (cs : List Char) : Bool :=
  cs.head?.any isDecimalDigit &&
    match cs.dropWhile (isLooseDigit 10) with
    | '.' :: rest =>
      let behind := rest.dropWhile (isLooseDigit 10)
      behind.isEmpty || isExponent false behind
    | behind => isExponent false behind

/-- A decimal number that starts with its point; its exponent has a sign. -/
def isPointDecimal : List Char → Bool
  | '.' :: rest =>
    let behind := rest.dropWhile (isLooseDigit 10)
    !(rest.takeWhile (isLooseDigit 10)).isEmpty && (behind.isEmpty || isExponent true behind)
  | _ => false

def unsigned (cs : List Char) : List Char := (splitSign cs).2

def isFloat (cs : List Char) : Bool :=
  let magnitude := unsigned cs
  isLeadingDecimal magnitude || isPointDecimal magnitude ||
    [".inf", ".Inf", ".INF"].contains (String.ofList magnitude) ||
    [".nan", ".NaN", ".NAN"].contains (String.ofList cs)

/-- An integer: decimal, or to the base two, eight or sixteen. Underscores count as digits, but not
at the start of the text. -/
def isInt (cs : List Char) : Bool :=
  cs.head? != some '_' &&
    match unsigned cs with
    | '0' :: 'b' :: digits => isAllOf (isLooseDigit 2) digits
    | '0' :: 'o' :: digits => isAllOf (isLooseDigit 8) digits
    | '0' :: 'x' :: digits => isAllOf (isLooseDigit 16) digits
    | digits => isAllOf (isLooseDigit 10) digits

/-- One or two digits at the start of a text, and the rest. -/
def oneOrTwoDigits? : List Char → Option (List Char × List Char)
  | c :: d :: rest =>
    if !isDecimalDigit c then none
    else if isDecimalDigit d then some ([c, d], rest)
    else some ([c], d :: rest)
  | [c] => if isDecimalDigit c then some ([c], []) else none
  | [] => none

/-- Exactly `count` digits at the start of a text, and the rest. -/
def exactDigits? (count : Nat) (cs : List Char) : Option (List Char × List Char) :=
  let digits := cs.take count
  if digits.length = count ∧ digits.all isDecimalDigit then some (digits, cs.drop count) else none

/-- A text without the given character in front. -/
def behindMark? (mark : Char) : List Char → Option (List Char)
  | c :: rest => if c = mark then some rest else none
  | [] => none

inductive ZoneText where
  | universal
  | offset (negative : Bool) (hours minutes : Nat) (text : List Char)
deriving Repr

structure ClockText where
  hour : Nat
  minute : Nat
  second : Nat
  fraction : List Char
  zone : Option ZoneText
deriving Repr

structure TimestampText where
  year : Nat
  month : Nat
  day : Nat
  /-- Whether the month and the day have two digits each. -/
  padded : Bool
  clock : Option ClockText
deriving Repr

def readZone? (cs : List Char) : Option (Option ZoneText) :=
  match cs.dropWhile (fun c => c = ' ' || c = '\t') with
  | [] => if cs.isEmpty then some none else none
  | ['Z'] => some (some .universal)
  | c :: rest =>
    if c = '+' ∨ c = '-' then do
      let (hours, behind) ← oneOrTwoDigits? rest
      let minutes ← match behind with
        | [] => some []
        | ':' :: behind => do
          let (minutes, behind) ← exactDigits? 2 behind
          if behind.isEmpty then some minutes else none
        | _ => none
      return some (.offset (c = '-') (ofDigits 10 hours) (ofDigits 10 minutes) (c :: rest))
    else none

/-- The clock of a point in time behind what separates it from the date. -/
def readClock? (cs : List Char) : Option ClockText := do
  let (hour, rest) ← oneOrTwoDigits? cs
  let (minute, rest) ← exactDigits? 2 (← behindMark? ':' rest)
  let (second, rest) ← exactDigits? 2 (← behindMark? ':' rest)
  let (fraction, rest) := match rest with
    | '.' :: behind => (behind.takeWhile isDecimalDigit, behind.dropWhile isDecimalDigit)
    | _ => ([], rest)
  let zone ← readZone? rest
  return ⟨ofDigits 10 hour, ofDigits 10 minute, ofDigits 10 second, fraction, zone⟩

/-- The text between a date and a clock, left out. -/
def behindDate? : List Char → Option (List Char)
  | 'T' :: rest => some rest
  | 't' :: rest => some rest
  | c :: rest =>
    if c = ' ' ∨ c = '\t' then some (rest.dropWhile fun c => c = ' ' || c = '\t') else none
  | [] => none

/-- The date and the clock that a text spells. -/
def readTimestamp? (cs : List Char) : Option TimestampText := do
  let (year, rest) ← exactDigits? 4 cs
  let (month, rest) ← oneOrTwoDigits? (← behindMark? '-' rest)
  let (day, rest) ← oneOrTwoDigits? (← behindMark? '-' rest)
  let padded := month.length = 2 && day.length = 2
  let clock ← match rest with
    | [] => some none
    | _ => ((behindDate? rest).bind readClock?).map some
  return ⟨ofDigits 10 year, ofDigits 10 month, ofDigits 10 day, padded, clock⟩

/-- A plain scalar is a point in time if it has a clock or a date in full. -/
def isTimestamp (cs : List Char) : Bool :=
  (readTimestamp? cs).any fun timestamp => timestamp.padded || timestamp.clock.isSome

def Tag.ofPlain (cs : List Char) : Tag :=
  let text := String.ofList cs
  if ["", "~", "null", "Null", "NULL"].contains text then .null
  else if ["true", "True", "TRUE", "false", "False", "FALSE"].contains text then .bool
  else if isFloat cs then .float
  else if isInt cs then .int
  else if isTimestamp cs then .timestamp
  else if text = "<<" then .merge
  else if text = "=" then .value
  else .str

end Logicless.Yaml
