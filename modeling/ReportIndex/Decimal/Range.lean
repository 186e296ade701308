import ReportIndex.Decimal.Shortest

/-!
Contract: which decimals are too large for a binary64 number.

Owns:
- the least value that rounds to infinity;
- the test, which builds no power of ten that it does not need.

Does not own: how a decimal is written.
-/

namespace ReportIndex.Decimal

/-- The least value that rounds to infinity: the middle between the largest
finite number, `2 ^ 1024 - 2 ^ 971`, and `2 ^ 1024`. -/
def infinityBound : Nat := Nat.pow 2 1024 - Nat.pow 2 970

/-- Whether the binary64 number nearest to a decimal is finite.

The bound lies between `10 ^ 308` and `10 ^ 309`, so the exponent alone decides
about all decimals but those that have 309 digits before the point. -/
def Scaled.isFinite (scaled : Scaled) : Bool :=
  let places := scaled.exponent + (Nat.toDigits 10 scaled.digits).length
  if scaled.digits = 0 ∨ places < 309 then true
  else if 309 < places then false
  else if 0 ≤ scaled.exponent then
    scaled.digits * Nat.pow 10 scaled.exponent.toNat < infinityBound
  else scaled.digits < infinityBound * Nat.pow 10 (-scaled.exponent).toNat

end ReportIndex.Decimal
