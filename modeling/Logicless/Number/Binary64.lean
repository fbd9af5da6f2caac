/-!
Floating-point numbers of 64 bits as exact values: a sign, a significand and a power of two. A
quotient is rounded to the nearest of them, a tie to the even significand.
-/

set_option autoImplicit false

namespace Logicless.Number

def twoTo (exponent : Nat) : Nat := Nat.pow 2 exponent

def tenTo (exponent : Nat) : Nat := Nat.pow 10 exponent

/-- A finite number: the significand, below `2 ^ 53`, times two to the exponent, which is at least
`-1074`. Zero has a sign too. -/
structure Finite64 where
  negative : Bool
  significand : Nat
  exponent : Int
deriving Repr, DecidableEq

inductive Binary64 where
  | finite (value : Finite64)
  | infinite (negative : Bool)
  | notANumber
deriving Repr, DecidableEq

namespace Finite64

def zero (negative : Bool) : Finite64 := ⟨negative, 0, -1074⟩

/-- The number as a fraction of integers, the denominator a power of two. -/
def exact (value : Finite64) : Dyadic :=
  let magnitude : Int := value.significand
  Dyadic.ofIntWithPrec (if value.negative then -magnitude else magnitude) (-value.exponent)

end Finite64

/-- The greatest `e` with `2 ^ e ≤ num / den`, for positive numbers. -/
def floorLog2 (num den : Nat) : Int :=
  let guess : Int := num.log2 - den.log2
  let reached :=
    if 0 ≤ guess then den * twoTo guess.toNat ≤ num else den ≤ num * twoTo (-guess).toNat
  if reached then guess else guess - 1

/-- A quotient rounded to the nearest integer, a tie to the even one. -/
def roundDiv (num den : Nat) : Nat :=
  let quotient := num / den
  let twice := 2 * (num % den)
  if twice > den ∨ (twice = den ∧ quotient % 2 = 1) then quotient + 1 else quotient

namespace Binary64

def ofRatio (negative : Bool) (num den : Nat) : Binary64 :=
  if num = 0 then .finite (.zero negative)
  else
    let exponent := max (floorLog2 num den - 52) (-1074)
    let significand :=
      if 0 ≤ exponent then roundDiv num (den * twoTo exponent.toNat)
      else roundDiv (num * twoTo (-exponent).toNat) den
    let (significand, exponent) :=
      if significand = twoTo 53 then (twoTo 52, exponent + 1) else (significand, exponent)
    if exponent > 971 then .infinite negative else .finite ⟨negative, significand, exponent⟩

/-- The number nearest to `coefficient * 10 ^ exponent`. Far outside of the range the power of ten
is not computed. -/
def ofDecimal (negative : Bool) (coefficient : Nat) (exponent : Int) : Binary64 :=
  let digits : Int := (Nat.toDigits 10 coefficient).length
  if coefficient = 0 then .finite (.zero negative)
  else if exponent + digits > 310 then .infinite negative
  else if exponent + digits < -330 then .finite (.zero negative)
  else if 0 ≤ exponent then ofRatio negative (coefficient * tenTo exponent.toNat) 1
  else ofRatio negative coefficient (tenTo (-exponent).toNat)

end Binary64

end Logicless.Number
