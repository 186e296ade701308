import ReportIndex.Decimal.Shortest

/-!
Contract: the written form of a binary64 number.

Owns:
- the choice between positional and exponent notation;
- the point, and the sign and digits of the exponent.

Does not own: which digits are written (`Decimal.shortest`).
-/

namespace ReportIndex.Decimal

/-- How numbers are laid out: those whose leading digit has an exponent from
`positionalFrom` to `positionalTo` are written positionally, all others with an
exponent. -/
structure Layout where
  positionalFrom : Int
  positionalTo : Int
deriving DecidableEq, Repr

/-- The layout of numbers in this library: positional from `10 ^ (-5)` up to
below `10 ^ 16`. -/
def standardLayout : Layout := ⟨-5, 15⟩

def digitsOf (value : Nat) : List Char :=
  Nat.toDigits 10 value

/-- The exponent with its sign, in as few digits as it needs. -/
def exponentText (exponent : Int) : List Char :=
  (if exponent < 0 then '-' else '+') :: digitsOf exponent.natAbs

/-- A positive decimal: always with a point or an exponent. -/
def Layout.scaledText (layout : Layout) (scaled : Scaled) : List Char :=
  let digits := digitsOf scaled.digits
  let leading := scaled.exponent + digits.length - 1
  if layout.positionalFrom ≤ leading ∧ leading ≤ layout.positionalTo then
    if 0 ≤ scaled.exponent then
      digits ++ List.replicate scaled.exponent.toNat '0' ++ ['.', '0']
    else if 0 ≤ leading then
      digits.take (leading + 1).toNat ++ '.' :: digits.drop (leading + 1).toNat
    else
      '0' :: '.' :: List.replicate (-leading - 1).toNat '0' ++ digits
  else
    let fraction := digits.drop 1
    digits.take 1 ++ (if fraction.isEmpty then [] else '.' :: fraction)
      ++ 'e' :: exponentText leading

/-- The written form of a number; negative zero keeps its sign. -/
def Layout.text (layout : Layout) (value : Float) : String :=
  if value.isNaN then "NaN"
  else
    let bits := value.toBits
    let negative := Nat.pow 2 63 ≤ bits.toNat
    let magnitude : List Char :=
      if value.isInf then ['i', 'n', 'f']
      else if bits.toNat % Nat.pow 2 63 = 0 then ['0', '.', '0']
      else layout.scaledText (shortest bits)
    String.ofList (if negative then '-' :: magnitude else magnitude)

end ReportIndex.Decimal
