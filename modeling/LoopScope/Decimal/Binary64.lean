/-!
# Binary floating point

A 64-bit floating-point number is zero, infinite, not a number, or `significand * 2 ^ exponent`
with a significand below 2^53. `Binary64.ofDecimal` takes the one nearest to a decimal, in exact
arithmetic; halfway between two it takes the even one.
-/
namespace LoopScope

inductive Binary64
  | nan
  | infinite (negative : Bool)
  | finite (negative : Bool) (significand : Nat) (exponent : Int)
deriving DecidableEq, Repr

namespace Binary64

/-- Significands of normal numbers start here. -/
def normal : Nat := 1 <<< 52

def leastExponent : Int := -1074

def greatestExponent : Int := 971

/-- `numerator / denominator` to the nearest whole number, from the halfway point to the even
one. -/
def roundDiv (numerator denominator : Nat) : Nat :=
  let quotient := numerator / denominator
  let twice := 2 * (numerator % denominator)
  if twice < denominator then quotient
  else if denominator < twice then quotient + 1
  else quotient + quotient % 2

/-- `n * 2 ^ e` as a fraction with a positive denominator. -/
def scale (numerator denominator : Nat) (e : Int) : Nat × Nat :=
  if 0 ≤ e then (numerator <<< e.toNat, denominator)
  else (numerator, denominator <<< (-e).toNat)

/-- The number nearest to a positive fraction. -/
def ofFraction (negative : Bool) (numerator denominator : Nat) : Binary64 :=
  let guess : Int := (Nat.log2 numerator : Int) - Nat.log2 denominator - 52
  let tooHigh := (scale numerator denominator (-guess)).1 <
    normal * (scale numerator denominator (-guess)).2
  let exponent := max leastExponent (if tooHigh then guess - 1 else guess)
  let (n, d) := scale numerator denominator (-exponent)
  let significand := roundDiv n d
  let (significand, exponent) :=
    if significand = 2 * normal then (normal, exponent + 1) else (significand, exponent)
  if greatestExponent < exponent then infinite negative
  else finite negative significand exponent

/-- The number nearest to `digits * 10 ^ exponent`. Powers of ten far outside the range are not
formed. -/
def ofDecimal (negative : Bool) (digits : Nat) (exponent : Int) : Binary64 :=
  let magnitude : Int := (Nat.toDigits 10 digits).length + exponent
  if digits = 0 ∨ magnitude < -330 then finite negative 0 leastExponent
  else if 310 < magnitude then infinite negative
  else if 0 ≤ exponent then ofFraction negative (digits * Nat.pow 10 exponent.toNat) 1
  else ofFraction negative digits (Nat.pow 10 (-exponent).toNat)

end Binary64

end LoopScope
