import Logicless.Number.Binary64

/-!
The shortest decimal text that reads back as a given floating-point number. Grids of one to
seventeen digits are tried in turn; the first with a point between the two borders of the number
gives the digits, of two such points the nearer one, and the even one where both are as near.
-/

set_option autoImplicit false

namespace Logicless.Number

/-- A decimal number: the digits, as a number without trailing zeros, times ten to the exponent. -/
structure Decimal where
  coefficient : Nat
  exponent : Int
deriving Repr, DecidableEq

/-- The borders of the numbers that round to a positive finite number, and the number itself, all
over one denominator. -/
structure Interval where
  low : Nat
  middle : Nat
  high : Nat
  den : Nat
  /-- Whether the borders themselves round to the number. -/
  closed : Bool

/-- The interval of a positive finite number. Below a power of two the grid is twice as fine. -/
def Finite64.interval (value : Finite64) : Interval :=
  let scaled := 4 * value.significand
  let below := if value.significand = twoTo 52 ∧ value.exponent > -1074 then 1 else 2
  let shift := value.exponent - 2
  let (factor, den) :=
    if 0 ≤ shift then (twoTo shift.toNat, 1) else (1, twoTo (-shift).toNat)
  ⟨(scaled - below) * factor, scaled * factor, (scaled + 2) * factor, den,
    value.significand % 2 = 0⟩

def Interval.holds (interval : Interval) (num den : Nat) : Bool :=
  let low := interval.low * den
  let high := interval.high * den
  let point := num * interval.den
  (low < point && point < high) || (interval.closed && (point = low || point = high))

/-- The least `e` with `num / den < 10 ^ e`, found from a guess that is not too high. -/
def decimalPoint (num den : Nat) : Nat → Int → Int
  | 0, guess => guess
  | fuel + 1, guess =>
    let reached :=
      if 0 ≤ guess then num < den * tenTo guess.toNat else num * tenTo (-guess).toNat < den
    if reached then guess else decimalPoint num den fuel (guess + 1)

/-- The point of the grid `10 ^ exponent` nearest to the middle of the interval, of those in it; of
two that are as near the even one. -/
def Interval.nearest? (interval : Interval) (exponent : Int) : Option Nat :=
  let (num, den) :=
    if 0 ≤ exponent then (interval.middle, interval.den * tenTo exponent.toNat)
    else (interval.middle * tenTo (-exponent).toNat, interval.den)
  let (scale, unit) :=
    if 0 ≤ exponent then (tenTo exponent.toNat, 1) else (1, tenTo (-exponent).toNat)
  let floor := num / den
  let inside (point : Nat) := interval.holds (point * scale) unit
  match inside floor, inside (floor + 1) with
  | true, true => some (roundDiv num den)
  | true, false => some floor
  | false, true => some (floor + 1)
  | false, false => none

/-- A number without its trailing zeros, and how many they were. -/
def stripZeros : Nat → Nat → Nat × Nat
  | 0, n => (n, 0)
  | fuel + 1, n =>
    if n ≠ 0 ∧ n % 10 = 0 then
      let (stripped, zeros) := stripZeros fuel (n / 10)
      (stripped, zeros + 1)
    else (n, 0)

/-- The shortest decimal number in the interval; `point` is the place of the decimal point. -/
def Interval.shortest (interval : Interval) (point : Int) : (digits : Nat) → Nat → Decimal
  | _, 0 => ⟨interval.middle / interval.den, 0⟩
  | digits, fuel + 1 =>
    match interval.nearest? (point - digits) with
    | some coefficient =>
      let (stripped, zeros) := stripZeros digits coefficient
      ⟨stripped, point - digits + zeros⟩
    | none => interval.shortest point (digits + 1) fuel

/-- The shortest decimal number that reads back as a finite number without its sign. -/
def Finite64.toDecimal (value : Finite64) : Decimal :=
  if value.significand = 0 then ⟨0, 0⟩
  else
    let interval := value.interval
    let guess := floorLog2 interval.middle interval.den * 30103 / 100000 - 1
    interval.shortest (decimalPoint interval.middle interval.den 8 guess) 1 17

/-- How a decimal number is written: positionally where the exponent of its first digit lies in a
range, and with an exponent elsewhere. -/
structure FloatStyle where
  minPositional : Int
  maxPositional : Int
  /-- The least number of digits of a written exponent. -/
  exponentWidth : Nat

/-- Numbers from `1e-4` up to below `1e16` are written positionally, and whole ones end in `.0`;
an exponent has a sign and at least two digits. -/
def FloatStyle.plain : FloatStyle := ⟨-4, 15, 2⟩

def zeros (count : Nat) : List Char := List.replicate count '0'

def Decimal.render (style : FloatStyle) (decimal : Decimal) : List Char :=
  let digits := Nat.toDigits 10 decimal.coefficient
  let point : Int := digits.length + decimal.exponent
  let lead := point - 1
  if style.minPositional ≤ lead ∧ lead ≤ style.maxPositional then
    if point ≤ 0 then '0' :: '.' :: zeros (-point).toNat ++ digits
    else if digits.length ≤ point then digits ++ zeros (point.toNat - digits.length) ++ ['.', '0']
    else digits.take point.toNat ++ '.' :: digits.drop point.toNat
  else
    let fraction := match digits.drop 1 with
      | [] => []
      | rest => '.' :: rest
    let exponent := Nat.toDigits 10 lead.natAbs
    digits.take 1 ++ fraction ++ 'e' :: (if lead < 0 then '-' else '+') ::
      zeros (style.exponentWidth - exponent.length) ++ exponent

def Finite64.text (value : Finite64) : String :=
  let magnitude := value.toDecimal.render .plain
  String.ofList (if value.negative then '-' :: magnitude else magnitude)

/-- The text of any number; infinities and the undefined number have names. -/
def Binary64.text : Binary64 → String
  | .finite value => value.text
  | .infinite negative => if negative then "-inf" else "inf"
  | .notANumber => "nan"

end Logicless.Number
