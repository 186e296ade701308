/-!
Contract: ASCII digits and the numbers that they stand for.

Owns:
- the values of decimal and hexadecimal digits;
- the value of a run of digits, and the sign in front of it.

Does not own: which numbers a format allows.
-/

namespace ReportIndex.Text

def digit? (character : Char) : Option Nat :=
  if character.isDigit then some (character.toNat - '0'.toNat) else none

/-- The value of a hexadecimal digit, in either case. -/
def hexDigit? (character : Char) : Option Nat :=
  let code := character.toNat
  if 0x30 ≤ code ∧ code ≤ 0x39 then some (code - 0x30)
  else if 0x41 ≤ code ∧ code ≤ 0x46 then some (code - 0x37)
  else if 0x61 ≤ code ∧ code ≤ 0x66 then some (code - 0x57)
  else none

/-- The number that digits stand for; characters between them that are no digits
are left out. -/
def digitsValue (radix : Nat) (digits : List Char) : Nat :=
  (digits.filterMap hexDigit?).foldl (fun value digit => value * radix + digit) 0

/-- A text without the sign that it may begin with. -/
def dropSign : List Char → List Char
  | '+' :: rest => rest
  | '-' :: rest => rest
  | text => text

end ReportIndex.Text
