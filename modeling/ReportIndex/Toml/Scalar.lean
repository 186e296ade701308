import ReportIndex.Text.Digit
import ReportIndex.Toml.Basic

/-!
Contract: the values that are written without quotes or brackets.

Owns:
- which texts are integers, floats, booleans, and dates and times;
- the bounds of the parts of a date and a time.

Does not own: where such a value ends in a document, and whether an integer has
a value. That an integer stands in a document shows at its beginning and at its
underscores; whether all the rest of it are digits matters only to who asks for
its value.
-/

namespace ReportIndex.Toml

/-! ## Numbers -/

/-- Digits, with single underscores between some of them. -/
def isDigitGroup (isDigit : Char → Bool) : List Char → Bool
  | [] => false
  | [digit] => isDigit digit
  | digit :: '_' :: rest => isDigit digit && isDigitGroup isDigit rest
  | digit :: rest => isDigit digit && isDigitGroup isDigit rest

def isHexDigit (character : Char) : Bool :=
  (Text.hexDigit? character).isSome

def isOctalDigit (character : Char) : Bool :=
  '0' ≤ character && character ≤ '7'

def isBinaryDigit (character : Char) : Bool :=
  character == '0' || character == '1'

/-- A whole number without sign: no zero stands before another digit. -/
def isWhole (text : List Char) : Bool :=
  isDigitGroup Char.isDigit text && (text.length == 1 || text.head? != some '0')

/-- A text without sign and prefix, the beginning of which is an integer's: it is
decimal up to the first underscore, and no zero stands before another digit. -/
def startsInteger (text : List Char) : Bool :=
  match text with
  | [] => false
  | first :: rest =>
      first.isDigit && (first != '0' || rest.isEmpty)
        && match rest.dropWhile Char.isDigit with
          | [] => true
          | behind :: _ => behind == '_'

/-- Whether every underscore stands between two digits of any kind. -/
def separatesDigits : List Char → Bool
  | [] => true
  | '_' :: _ => false
  | before :: '_' :: after :: rest =>
      isHexDigit before && isHexDigit after && separatesDigits (after :: rest)
  | _ :: rest => separatesDigits rest

/-- The characters that no integer holds: those of a float, and the blank. -/
def excludesInteger (character : Char) : Bool :=
  character == '.' || character == 'e' || character == 'E' || character == ' '

/-- An integer. One with a prefix may lack its digits; in one without, what
follows the first underscore need not consist of digits. -/
def isInteger (text : List Char) : Bool :=
  match text with
  | '0' :: 'x' :: digits => digits.isEmpty || isDigitGroup isHexDigit digits
  | '0' :: 'o' :: digits => digits.isEmpty || isDigitGroup isOctalDigit digits
  | '0' :: 'b' :: digits => digits.isEmpty || isDigitGroup isBinaryDigit digits
  | _ =>
      let unsigned := Text.dropSign text
      startsInteger unsigned && separatesDigits unsigned && !unsigned.any excludesInteger

def isDigitOrUnderscore (character : Char) : Bool :=
  character.isDigit || character == '_'

def isExponent (text : List Char) : Bool :=
  match text with
  | 'e' :: rest => isDigitGroup Char.isDigit (Text.dropSign rest)
  | 'E' :: rest => isDigitGroup Char.isDigit (Text.dropSign rest)
  | _ => false

/-- The words for infinity and for no number, which may have a sign. -/
def isFloatWord (text : List Char) : Bool :=
  let unsigned := Text.dropSign text
  unsigned == ['i', 'n', 'f'] || unsigned == ['n', 'a', 'n']

/-- A whole number with a fraction, an exponent, or both. -/
def isDecimalFloat (text : List Char) : Bool :=
  let unsigned := Text.dropSign text
  isWhole (unsigned.takeWhile isDigitOrUnderscore)
    && match unsigned.dropWhile isDigitOrUnderscore with
      | '.' :: rest =>
          let behind := rest.dropWhile isDigitOrUnderscore
          isDigitGroup Char.isDigit (rest.takeWhile isDigitOrUnderscore)
            && (behind.isEmpty || isExponent behind)
      | rest => isExponent rest

def isFloat (text : List Char) : Bool :=
  isFloatWord text || isDecimalFloat text

/-- The spelling of a number without the underscores in it, which only set its
digits apart. -/
def spelling (text : List Char) : String :=
  String.ofList (text.filter (· != '_'))

/-! ## Dates and times -/

def twoDigits? (tens units : Char) : Option Nat := do
  return (← Text.digit? tens) * 10 + (← Text.digit? units)

def isLeapYear (year : Nat) : Bool :=
  year % 4 == 0 && (year % 100 != 0 || year % 400 == 0)

def daysOfMonth (year month : Nat) : Nat :=
  if month = 2 then (if isLeapYear year then 29 else 28)
  else if month = 4 ∨ month = 6 ∨ month = 9 ∨ month = 11 then 30
  else 31

/-- What follows a date at the beginning of a text. -/
def readDate? : List Char → Option (List Char)
  | y₁ :: y₂ :: y₃ :: y₄ :: '-' :: m₁ :: m₂ :: '-' :: d₁ :: d₂ :: rest => do
      let century ← twoDigits? y₁ y₂
      let yearInCentury ← twoDigits? y₃ y₄
      let month ← twoDigits? m₁ m₂
      let day ← twoDigits? d₁ d₂
      if 1 ≤ month ∧ month ≤ 12 ∧ 1 ≤ day
          ∧ day ≤ daysOfMonth (century * 100 + yearInCentury) month then
        some rest
      else none
  | _ => none

/-- What follows the fraction of a second. -/
def readFraction? : List Char → Option (List Char)
  | '.' :: digit :: rest => if digit.isDigit then some (rest.dropWhile Char.isDigit) else none
  | '.' :: [] => none
  | rest => some rest

/-- What follows the seconds of a time, which may be missing. -/
def readSeconds? : List Char → Option (List Char)
  | ':' :: s₁ :: s₂ :: rest => do
      let second ← twoDigits? s₁ s₂
      if second ≤ 60 then readFraction? rest else none
  | ':' :: _ => none
  | rest => some rest

/-- What follows a time at the beginning of a text. -/
def readTime? : List Char → Option (List Char)
  | h₁ :: h₂ :: ':' :: m₁ :: m₂ :: rest => do
      let hour ← twoDigits? h₁ h₂
      let minute ← twoDigits? m₁ m₂
      if hour ≤ 23 ∧ minute ≤ 59 then readSeconds? rest else none
  | _ => none

/-- Nothing, or the distance from universal time. -/
def isOffset : List Char → Bool
  | [] => true
  | ['Z'] => true
  | ['z'] => true
  | [sign, h₁, h₂, ':', m₁, m₂] =>
      (sign == '+' || sign == '-')
        && match twoDigits? h₁ h₂, twoDigits? m₁ m₂ with
          | some hour, some minute => hour ≤ 23 && minute ≤ 59
          | _, _ => false
  | _ => false

def isDate (text : List Char) : Bool :=
  readDate? text == some []

/-- A date, a time, or both; only a date with a time can have an offset. -/
def isTime (text : List Char) : Bool :=
  match readDate? text with
  | some [] => true
  | some (separator :: rest) =>
      (separator == 'T' || separator == 't' || separator == ' ')
        && match readTime? rest with
          | some offset => isOffset offset
          | none => false
  | none => readTime? text == some []

/-- The value of a text without quotes or brackets. -/
def scalar? (text : List Char) : Option Value :=
  if text = ['t', 'r', 'u', 'e'] then some (.boolean true)
  else if text = ['f', 'a', 'l', 's', 'e'] then some (.boolean false)
  else if isInteger text then some (.integer (spelling text))
  else if isFloat text then some (.float (spelling text))
  else if isTime text then some (.time (String.ofList text))
  else none

end ReportIndex.Toml
