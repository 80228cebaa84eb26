/-!
# Floating-point numbers of 64 bits

A finite number is `± significand * 2 ^ exponent` with a significand below `2 ^ 53` and an exponent
between -1074 and 971; unless the exponent is the least one, the significand is at least `2 ^ 52`.
So each number has one form, and equality of forms tells apart the two zeros only.

Reading a decimal rounds its exact value to the nearest number, a tie going to the even significand.
Powers are written `Nat.pow` and `Int.pow`, so that they do not depend on the instance in scope.
-/

namespace LittleComputer

inductive Binary64 where
  | nan
  | infinite (negative : Bool)
  | finite (negative : Bool) (significand : Nat) (exponent : Int)
  deriving DecidableEq

namespace Binary64

def leastExponent : Int :=
  -1074

def greatestExponent : Int :=
  971

def zero (negative : Bool) : Binary64 :=
  finite negative 0 leastExponent

/-! ## Rounding -/

/-- The quotient rounded to the nearest integer, a tie going to the even one. -/
def roundDiv (numerator denominator : Nat) : Nat :=
  let quotient := numerator / denominator
  let rest := 2 * (numerator % denominator)
  if rest < denominator then quotient
  else if denominator < rest then quotient + 1
  else quotient + quotient % 2

/-- The exponent at which a positive quotient has 53 bits before the point, or the least one. -/
def exponentOf (numerator denominator : Nat) : Int :=
  let estimate : Int := (numerator.log2 : Int) - (denominator.log2 : Int)
  let below := numerator * Nat.pow 2 (-estimate).toNat < denominator * Nat.pow 2 estimate.toNat
  max (if below then estimate - 53 else estimate - 52) leastExponent

def ofQuotient (negative : Bool) (numerator denominator : Nat) : Binary64 :=
  let exponent := exponentOf numerator denominator
  let rounded :=
    roundDiv (numerator * Nat.pow 2 (-exponent).toNat) (denominator * Nat.pow 2 exponent.toNat)
  let (significand, exponent) :=
    if rounded = Nat.pow 2 53 then (Nat.pow 2 52, exponent + 1) else (rounded, exponent)
  if greatestExponent < exponent then infinite negative
  else finite negative significand exponent

/-- The number nearest to `± digits * 10 ^ scale`.  A scale far outside the range is settled by the
number of digits, before any power is taken. -/
def ofDecimal (negative : Bool) (digits : Nat) (scale : Int) : Binary64 :=
  let magnitude : Int := (digits.log2 : Int) * 30103 / 100000 + scale
  if digits = 0 ∨ magnitude < -400 then zero negative
  else if 400 < magnitude then infinite negative
  else ofQuotient negative (digits * Nat.pow 10 scale.toNat) (Nat.pow 10 (-scale).toNat)

/-! ## Comparison with integers -/

def isNegative : Binary64 -> Bool
  | nan => false
  | infinite negative => negative
  | finite negative _ _ => negative

def isZero : Binary64 -> Bool
  | finite _ significand _ => significand == 0
  | _ => false

def signedSignificand (negative : Bool) (significand : Nat) (exponent : Int) : Int :=
  let size : Int := significand * Int.pow 2 exponent.toNat
  if negative then -size else size

def between (low high : Int) : Binary64 -> Bool
  | finite negative significand exponent =>
      let numerator := signedSignificand negative significand exponent
      let denominator := Int.pow 2 (-exponent).toNat
      low * denominator ≤ numerator && numerator ≤ high * denominator
  | _ => false

def truncate (negative : Bool) (significand : Nat) (exponent : Int) : Int :=
  Int.tdiv (signedSignificand negative significand exponent) (Int.pow 2 (-exponent).toNat)

def toInt? : Binary64 -> Option Int
  | finite negative significand exponent =>
      let numerator := signedSignificand negative significand exponent
      let denominator := Int.pow 2 (-exponent).toNat
      if numerator % denominator = 0 then some (numerator / denominator) else none
  | _ => none

end Binary64
end LittleComputer
