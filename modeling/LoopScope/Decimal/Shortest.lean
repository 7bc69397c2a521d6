import LoopScope.Decimal.Binary64
/-!
# Shortest decimals

A floating-point number is written with the fewest decimal digits that read back as the same
number, and among those with the digits nearest to it. `Binary64.render` writes it in positional
notation with a point.
-/
namespace LoopScope.Binary64

/-- The decimals that read back as one number, as fractions over one denominator: from `low` to
`high`, ends included if `closed`, around the number itself. -/
structure Interval where
  low : Nat
  value : Nat
  high : Nat
  denominator : Nat
  closed : Bool

/-- The interval of a number that is not zero. Below a power of two the gap is half as wide. -/
def interval (significand : Nat) (exponent : Int) : Interval :=
  let narrow := significand = normal ∧ leastExponent < exponent
  let (numerator, denominator) := scale 1 4 exponent
  { low := (if narrow then 4 * significand - 1 else 4 * significand - 2) * numerator
    value := 4 * significand * numerator
    high := (4 * significand + 2) * numerator
    denominator := denominator
    closed := significand % 2 = 0 }

/-- Whether `digits / unit` lies in an interval. -/
def Interval.contains (i : Interval) (digits unit : Nat) : Bool :=
  let point := digits * i.denominator
  if i.closed then i.low * unit ≤ point && point ≤ i.high * unit
  else i.low * unit < point && point < i.high * unit

/-- The multiple of `10 ^ place` in the interval that is nearest to the number, if there is one.
Halfway between two it is the greater. -/
def Interval.nearest? (i : Interval) (place : Int) : Option Nat :=
  let (up, down) := if 0 ≤ place then (Nat.pow 10 place.toNat, 1) else (1, Nat.pow 10 (-place).toNat)
  let scaled : Interval :=
    { i with low := i.low * down, value := i.value * down, high := i.high * down
             denominator := i.denominator * up }
  let below := scaled.value / scaled.denominator
  let belowNearer := 2 * (scaled.value % scaled.denominator) < scaled.denominator
  match scaled.contains below 1, scaled.contains (below + 1) 1 with
  | true, true => some (if belowNearer then below else below + 1)
  | true, false => some below
  | false, true => some (below + 1)
  | false, false => none

/-- The first place from `place` downwards that has a point in the interval, and that point. -/
def Interval.shortest (i : Interval) : (attempts : Nat) → (place : Int) → Nat × Int
  | 0, place => (i.value / i.denominator, place)
  | attempts + 1, place =>
    match i.nearest? place with
    | some digits => (digits, place)
    | none => i.shortest attempts (place - 1)

/-- The shortest digits of a number that is not zero, and the power of ten of the last one. -/
def shortest (significand : Nat) (exponent : Int) : Nat × Int :=
  let i := interval significand exponent
  let whole := i.value / i.denominator
  let first : Int :=
    if 0 < whole then (Nat.toDigits 10 whole).length
    else 1 - (Nat.toDigits 10 (i.denominator / i.value)).length
  i.shortest 20 first

/-- Digits in positional notation, with a point and at least one digit on both sides of it. -/
def positional (digits : Nat) (place : Int) : List Char :=
  let ds := Nat.toDigits 10 digits
  if 0 ≤ place then ds ++ List.replicate place.toNat '0' ++ ['.', '0']
  else
    let after := (-place).toNat
    let padded := List.replicate (after + 1 - ds.length) '0' ++ ds
    let split := padded.length - after
    padded.take split ++ '.' :: padded.drop split

/-- The text of a number. -/
def render : Binary64 → String
  | nan => "NaN"
  | infinite negative => if negative then "-inf" else "inf"
  | finite negative significand exponent =>
    let (digits, place) := if significand = 0 then (0, 0) else shortest significand exponent
    let text := String.ofList (positional digits place)
    if negative then "-" ++ text else text

end LoopScope.Binary64
