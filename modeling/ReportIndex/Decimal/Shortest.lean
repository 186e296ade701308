/-!
Contract: the shortest decimal that reads back as a given binary64 number.

Owns:
- the exact value of a finite number, and the interval of values that round to
  it;
- the search for the first count of digits whose grid meets that interval, and
  for the nearest point on that grid.

Does not own: where a written number has its point or an exponent.

All arithmetic is exact, on natural numbers.
-/

namespace ReportIndex.Decimal

/-- `digits · 10 ^ exponent`. -/
structure Scaled where
  digits : Nat
  exponent : Int
deriving DecidableEq, Repr

/-- A positive binary64 number and its neighbourhood, in quarters of its last
place: the number is `quarters / divisor`, and the values strictly between
`low / divisor` and `high / divisor` round to it; the two ends do so exactly
when `closed`. -/
structure Neighbourhood where
  quarters : Nat
  low : Nat
  high : Nat
  divisor : Nat
  closed : Bool
deriving DecidableEq, Repr

/-- The neighbourhood of the number with these bits, its sign left out.

At a power of two the neighbour below is half as far away as the one above,
unless the number is the least normal one. -/
def Neighbourhood.ofBits (bits : UInt64) : Neighbourhood :=
  let fraction := bits.toNat % Nat.pow 2 52
  let biased := bits.toNat / Nat.pow 2 52 % Nat.pow 2 11
  let significand := if biased = 0 then fraction else Nat.pow 2 52 + fraction
  let scale := if biased = 0 then 1 else biased
  let below := if fraction = 0 ∧ 1 < biased then 1 else 2
  let factor := Nat.pow 2 (scale - 1077)
  { quarters := 4 * significand * factor
    low := (4 * significand - below) * factor
    high := (4 * significand + 2) * factor
    divisor := Nat.pow 2 (1077 - scale)
    closed := significand % 2 == 0 }

/-- Whether a value, given as a fraction, rounds to the number. -/
def Neighbourhood.contains
    (around : Neighbourhood)
    (numerator denominator : Nat) :
    Bool :=
  let value := numerator * around.divisor
  let low := around.low * denominator
  let high := around.high * denominator
  if around.closed then low ≤ value && value ≤ high else low < value && value < high

/-- The least exponent `k`, counted up from `exponent`, with
`numerator / denominator < 10 ^ k`. -/
def leadingExponent
    (numerator denominator : Nat) :
    Nat → Int → Int
  | 0, exponent => exponent
  | fuel + 1, exponent =>
      if numerator * Nat.pow 10 (-exponent).toNat < denominator * Nat.pow 10 exponent.toNat then
        exponent
      else leadingExponent numerator denominator fuel (exponent + 1)

/-- The point nearest to the number on the grid of multiples of `10 ^ exponent`,
if one of the number's two neighbours there rounds to it.

Of two that do the nearer is taken, and of two equally near the even one. -/
def Neighbourhood.nearestOnGrid?
    (around : Neighbourhood)
    (exponent : Int) :
    Option Scaled :=
  let up := Nat.pow 10 exponent.toNat
  let down := Nat.pow 10 (-exponent).toNat
  let numerator := around.quarters * down
  let denominator := around.divisor * up
  let floor := numerator / denominator
  let remainder := numerator % denominator
  let floorFits := around.contains (floor * up) down
  let ceilingFits := around.contains ((floor + 1) * up) down
  let floorNearer :=
    2 * remainder < denominator || (2 * remainder == denominator && floor % 2 == 0)
  if floorFits && (floorNearer || !ceilingFits) then some ⟨floor, exponent⟩
  else if ceilingFits then some ⟨floor + 1, exponent⟩
  else none

/-- The first grid, from `count` digits on, that has a point for the number. -/
def Neighbourhood.firstGrid
    (around : Neighbourhood)
    (leading : Int) :
    Nat → Nat → Scaled
  | 0, count => ⟨around.quarters, leading - count⟩
  | fuel + 1, count =>
      match around.nearestOnGrid? (leading - count) with
      | some found => found
      | none => around.firstGrid leading fuel (count + 1)

/-- `scaled` without zeros at the end of its digits; there are fewer than
`fuel` of them. -/
def Scaled.withoutTrailingZeros : Nat → Scaled → Scaled
  | 0, scaled => scaled
  | fuel + 1, scaled =>
      if scaled.digits ≠ 0 ∧ scaled.digits % 10 = 0 then
        withoutTrailingZeros fuel ⟨scaled.digits / 10, scaled.exponent + 1⟩
      else scaled

/-- The shortest decimal that reads back as the positive finite number with
these bits.

Seventeen digits always suffice, and every such number lies between
`10 ^ (-324)` and `10 ^ 309`. -/
def shortest (bits : UInt64) : Scaled :=
  let around := Neighbourhood.ofBits bits
  let leading := leadingExponent around.quarters around.divisor 640 (-324)
  (around.firstGrid leading 17 1).withoutTrailingZeros 20

end ReportIndex.Decimal
