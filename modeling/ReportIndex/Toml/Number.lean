import ReportIndex.Decimal.Range
import ReportIndex.Toml.Scalar

/-!
Contract: what the numbers of a TOML document stand for, and which of them have
a value within bounds.

Owns:
- the exact value of an integer and of a float, read off their spelling;
- the bounds: an integer fits into 128 bits, with or without a sign, and a float
  does not round to infinity;
- the values in which every number is within bounds.

Does not own: which texts of a document are numbers. A number without a value, or
with one out of bounds, is a fault only for who looks at its value, so a document
can hold one.
-/

namespace ReportIndex.Toml

/-- The value of digits; none if there are none, or something else among them. -/
def wholeValue? (radix : Nat) (isDigit : Char → Bool) (digits : List Char) : Option Nat :=
  if digits.isEmpty || !digits.all isDigit then none
  else some (Text.digitsValue radix digits)

/-- The value of decimal digits that a sign may stand before. -/
def signedValue? : List Char → Option Int
  | '-' :: digits => (wholeValue? 10 Char.isDigit digits).map fun value => -(value : Int)
  | '+' :: digits => (wholeValue? 10 Char.isDigit digits).map Int.ofNat
  | digits => (wholeValue? 10 Char.isDigit digits).map Int.ofNat

def integerValue? : List Char → Option Int
  | '0' :: 'x' :: digits => (wholeValue? 16 isHexDigit digits).map Int.ofNat
  | '0' :: 'o' :: digits => (wholeValue? 8 isOctalDigit digits).map Int.ofNat
  | '0' :: 'b' :: digits => (wholeValue? 2 isBinaryDigit digits).map Int.ofNat
  | digits => signedValue? digits

/-- Whether an integer has a value that fits into 128 bits, with or without a
sign. -/
def isBoundedInteger (text : List Char) : Bool :=
  match integerValue? text with
  | none => false
  | some value => -Int.pow 2 127 ≤ value && value < Int.pow 2 128

/-- The magnitude of a float; none for the words for infinity and for no number. -/
def floatMagnitude? (text : List Char) : Option Decimal.Scaled :=
  let isInSignificand (character : Char) := character != 'e' && character != 'E'
  let unsigned := Text.dropSign text
  let significand := unsigned.takeWhile isInSignificand
  let exponent := (unsigned.dropWhile isInSignificand).drop 1
  let whole := significand.takeWhile (· != '.')
  let fraction := (significand.dropWhile (· != '.')).drop 1
  match whole with
  | [] => none
  | first :: _ =>
      if first.isDigit then
        let shift := (signedValue? exponent).getD 0
        some ⟨Text.digitsValue 10 (whole ++ fraction), shift - fraction.length⟩
      else none

/-- Whether a float is one of the words or does not round to infinity. -/
def isBoundedFloat (text : List Char) : Bool :=
  match floatMagnitude? text with
  | none => true
  | some magnitude => magnitude.isFinite

mutual

/-- Whether every number in a value has a value within bounds. -/
def Value.isBounded : Value → Bool
  | .string _ => true
  | .boolean _ => true
  | .integer spelling => isBoundedInteger spelling.toList
  | .float spelling => isBoundedFloat spelling.toList
  | .time _ => true
  | .array items => areBoundedItems items
  | .table entries => areBoundedEntries entries

def areBoundedItems : List Value → Bool
  | [] => true
  | item :: items => item.isBounded && areBoundedItems items

def areBoundedEntries : List (String × Value) → Bool
  | [] => true
  | (_, value) :: entries => value.isBounded && areBoundedEntries entries

end

end ReportIndex.Toml
