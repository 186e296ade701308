import ReportIndex.Json.Basic
import ReportIndex.Decimal.Notation

/-!
Contract: the text of a JSON value.

Owns:
- the escapes inside strings;
- the layout with one item or member a line, two blanks a level;
- the text of a number.

Does not own: which values are printed.
-/

namespace ReportIndex.Json

def lowerHexDigit (value : Nat) : Char :=
  Char.ofNat (if value < 10 then 0x30 + value else 0x57 + value)

/-- One character inside a string: only the quote, the backslash and the
controls below U+0020 are escaped. -/
def escapeCharacter (character : Char) : List Char :=
  if character = '"' then ['\\', '"']
  else if character = '\\' then ['\\', '\\']
  else if character = '\x08' then ['\\', 'b']
  else if character = '\x0c' then ['\\', 'f']
  else if character = '\n' then ['\\', 'n']
  else if character = '\r' then ['\\', 'r']
  else if character = '\t' then ['\\', 't']
  else if character.toNat < 0x20 then
    ['\\', 'u', '0', '0',
      lowerHexDigit (character.toNat / 16), lowerHexDigit (character.toNat % 16)]
  else [character]

def printString (text : String) : List Char :=
  '"' :: text.toList.flatMap escapeCharacter ++ ['"']

def printNumber : Number → List Char
  | .natural magnitude => Nat.toDigits 10 magnitude
  | .negative magnitude => '-' :: Nat.toDigits 10 magnitude
  | .real value => (Decimal.standardLayout.text value).toList

/-- A line break and the blanks of a level. -/
def breakLine (level : Nat) : List Char :=
  '\n' :: List.replicate (2 * level) ' '

mutual

/-- A value at a level of nesting. -/
def printValue (level : Nat) : Value → List Char
  | .null => ['n', 'u', 'l', 'l']
  | .boolean true => ['t', 'r', 'u', 'e']
  | .boolean false => ['f', 'a', 'l', 's', 'e']
  | .number value => printNumber value
  | .string value => printString value
  | .array [] => ['[', ']']
  | .array (item :: items) =>
      '[' :: breakLine (level + 1) ++ printValue (level + 1) item
        ++ printFurtherItems level items
  | .object [] => ['{', '}']
  | .object ((name, value) :: members) =>
      '{' :: breakLine (level + 1) ++ printString name ++ ':' :: ' ' :: printValue (level + 1) value
        ++ printFurtherMembers level members

/-- The items of a list behind the first one, and its end. -/
def printFurtherItems (level : Nat) : List Value → List Char
  | [] => breakLine level ++ [']']
  | item :: items =>
      ',' :: breakLine (level + 1) ++ printValue (level + 1) item
        ++ printFurtherItems level items

/-- The members of an object behind the first one, and its end. -/
def printFurtherMembers (level : Nat) : List (String × Value) → List Char
  | [] => breakLine level ++ ['}']
  | (name, value) :: members =>
      ',' :: breakLine (level + 1) ++ printString name ++ ':' :: ' ' :: printValue (level + 1) value
        ++ printFurtherMembers level members

end

/-- The text of a value, with one item or member a line. -/
def print (value : Value) : String :=
  String.ofList (printValue 0 value)

end ReportIndex.Json
