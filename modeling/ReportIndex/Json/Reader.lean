import ReportIndex.Json.Basic
import ReportIndex.Json.Failure
import ReportIndex.Text.Digit

/-!
Contract: the JSON value that a text holds, or why it holds none.

Owns:
- the readers of literals, numbers, strings, lists and objects;
- the limit of 127 nested lists and objects.

Does not own: what a document is expected to hold.

A reader takes a text and gives what it read with the rest. Where a reader
calls itself on a shorter text, a count of steps bounds the calls; the text's
length is always enough.
-/

namespace ReportIndex.Json

/-- The four characters that may stand between the parts of a document. -/
def isSpace (character : Char) : Bool :=
  character == ' ' || character == '\n' || character == '\t' || character == '\r'

def skipSpace (text : List Char) : List Char :=
  text.dropWhile isSpace

/-- Reads the rest of a literal, whose characters are all consumed one by one. -/
def readLiteral : List Char → List Char → Except Failure (List Char)
  | [], rest => .ok rest
  | _ :: _, [] => .error (.atEnd .endInValue)
  | expected :: literal, character :: rest =>
      if character = expected then readLiteral literal rest
      else .error (.before .expectedLiteral (character :: rest))

/-! ## Numbers -/

def startsWithDigit : List Char → Bool
  | [] => false
  | character :: _ => character.isDigit

/-- The digits that still fit into 64 bits behind `significand`: the number
with them, how many they are, and the rest. -/
def gatherDigits (significand : Nat) : List Char → Nat × Nat × List Char
  | [] => (significand, 0, [])
  | character :: rest =>
      match Text.digit? character with
      | none => (significand, 0, character :: rest)
      | some digit =>
          if Nat.pow 2 64 ≤ significand * 10 + digit then (significand, 0, character :: rest)
          else
            let (gathered, count, remaining) := gatherDigits (significand * 10 + digit) rest
            (gathered, count + 1, remaining)

/-- `value / 10 ^ count`, by steps of at most 308 powers. -/
def divideByPower (value : Float) (count : Nat) : Float :=
  if count ≤ 308 then value / Float.ofScientific 1 false count
  else if value == 0 then value
  else divideByPower (value / Float.ofScientific 1 false 308) (count - 308)
termination_by count

/-- `significand · 10 ^ exponent` as a binary64 number, rounded once for the
significand and once for each step of scaling; none if that is infinite. -/
def scaleNumber (significand : Nat) (exponent : Int) : Option Float :=
  let value := significand.toUInt64.toFloat
  if exponent < 0 then some (divideByPower value exponent.natAbs)
  else if 308 < exponent then
    if significand = 0 then some value else none
  else
    let scaled := value * Float.ofScientific 1 false exponent.natAbs
    if scaled.isInf then none else some scaled

/-- The number with these parts, at whose end `rest` is left. -/
def finishReal
    (positive : Bool)
    (significand : Nat)
    (exponent : Int)
    (rest : List Char) :
    Except Failure (Number × List Char) :=
  match scaleNumber significand exponent with
  | some value => .ok (.real (if positive then value else -value), rest)
  | none => .error (.behind .numberOutOfRange rest)

/-- Exponents are counted in 32 bits. -/
def largestExponent : Nat := Nat.pow 2 31 - 1

/-- The exponent's digits behind `exponent`, as long as they fit into 32 bits. -/
def gatherExponent (exponent : Nat) : List Char → Nat × List Char
  | [] => (exponent, [])
  | character :: rest =>
      match Text.digit? character with
      | none => (exponent, character :: rest)
      | some digit =>
          if largestExponent < exponent * 10 + digit then (exponent, character :: rest)
          else gatherExponent (exponent * 10 + digit) rest

/-- Reads the digits of an exponent and finishes the number.

An exponent that outgrows its 32 bits is noticed when the first digit too many
has been read. It is no fault if the number is zero all the same. -/
def readExponentDigits
    (positive : Bool)
    (significand : Nat)
    (start : Int)
    (rising : Bool) :
    List Char → Except Failure (Number × List Char)
  | [] => .error (.atEnd .endInValue)
  | character :: rest =>
      match Text.digit? character with
      | none => .error (.before .invalidNumber (character :: rest))
      | some digit =>
          let (exponent, remaining) := gatherExponent digit rest
          if startsWithDigit remaining then
            if significand ≠ 0 ∧ rising then .error (.before .numberOutOfRange remaining)
            else .ok (.real (if positive then 0 else -0), remaining.dropWhile Char.isDigit)
          else
            let signed : Int := if rising then exponent else -exponent
            finishReal positive significand (start + signed) remaining

/-- Reads an exponent behind its letter. -/
def readExponent
    (positive : Bool)
    (significand : Nat)
    (start : Int) :
    List Char → Except Failure (Number × List Char)
  | '+' :: rest => readExponentDigits positive significand start true rest
  | '-' :: rest => readExponentDigits positive significand start false rest
  | rest => readExponentDigits positive significand start true rest

/-- Reads an exponent if one follows, and finishes the number. -/
def readExponentIfAny
    (positive : Bool)
    (significand : Nat)
    (exponent : Int)
    (text : List Char) :
    Except Failure (Number × List Char) :=
  match text with
  | 'e' :: rest => readExponent positive significand exponent rest
  | 'E' :: rest => readExponent positive significand exponent rest
  | rest => finishReal positive significand exponent rest

/-- Reads a fraction behind its point. Digits that no longer fit into 64 bits
are passed over. -/
def readFraction
    (positive : Bool)
    (significand : Nat)
    (exponent : Int)
    (text : List Char) :
    Except Failure (Number × List Char) :=
  let (gathered, count, rest) := gatherDigits significand text
  if startsWithDigit rest then
    readExponentIfAny positive gathered (exponent - count) (rest.dropWhile Char.isDigit)
  else if count = 0 then
    match rest with
    | [] => .error (.atEnd .endInValue)
    | _ => .error (.before .invalidNumber rest)
  else readExponentIfAny positive gathered (exponent - count) rest

/-- Reads what follows the whole part of a number that fits into 64 bits. -/
def finishWhole
    (positive : Bool)
    (significand : Nat)
    (text : List Char) :
    Except Failure (Number × List Char) :=
  match text with
  | '.' :: rest => readFraction positive significand 0 rest
  | 'e' :: rest => readExponent positive significand 0 rest
  | 'E' :: rest => readExponent positive significand 0 rest
  | rest =>
      if positive then .ok (.natural significand, rest)
      else if significand = 0 ∨ Nat.pow 2 63 < significand then
        .ok (.real (-significand.toUInt64.toFloat), rest)
      else .ok (.negative significand, rest)

def readNumber
    (positive : Bool)
    (text : List Char) :
    Except Failure (Number × List Char) :=
  match text with
  | [] => .error (.atEnd .endInValue)
  | '0' :: rest =>
      if startsWithDigit rest then .error (.before .invalidNumber rest)
      else finishWhole positive 0 rest
  | character :: rest =>
      if character.isDigit then
        let (significand, _, remaining) := gatherDigits 0 (character :: rest)
        if startsWithDigit remaining then
          let exponent := (remaining.takeWhile Char.isDigit).length
          match remaining.dropWhile Char.isDigit with
          | '.' :: behind => readFraction positive significand exponent behind
          | behind => readExponentIfAny positive significand exponent behind
        else finishWhole positive significand remaining
      else .error (.before .invalidNumber (character :: rest))

/-! ## Strings -/

/-- The value of four hexadecimal digits. -/
def hexUnit? (first second third fourth : Char) : Option Nat := do
  let firstValue ← Text.hexDigit? first
  let secondValue ← Text.hexDigit? second
  let thirdValue ← Text.hexDigit? third
  let fourthValue ← Text.hexDigit? fourth
  return ((firstValue * 16 + secondValue) * 16 + thirdValue) * 16 + fourthValue

/-- Reads the four digits of a `\u` escape. The four bytes there count as read
whatever they are. -/
def readUnit (text : List Char) : Except Failure (Nat × List Char) :=
  let unit := match text with
    | first :: second :: third :: fourth :: rest =>
        (hexUnit? first second third fourth).map fun value => (value, rest)
    | _ => none
  match unit with
  | some found => .ok found
  | none =>
      if Text.utf8Length text < 4 then .error (.atEnd .endInString)
      else .error ⟨.invalidEscape, text, 4⟩

def isHighSurrogate (unit : Nat) : Bool := 0xD800 ≤ unit && unit ≤ 0xDBFF

def isLowSurrogate (unit : Nat) : Bool := 0xDC00 ≤ unit && unit ≤ 0xDFFF

/-- Reads the second half of a surrogate pair, with its `\u`. -/
def readLowSurrogate
    (high : Nat) :
    List Char → Except Failure (Char × List Char)
  | [] => .error (.atEnd .endInString)
  | ['\\'] => .error (.atEnd .endInString)
  | '\\' :: 'u' :: rest => do
      let (low, remaining) ← readUnit rest
      if isLowSurrogate low then
        return (Char.ofNat (0x10000 + (high - 0xD800) * 0x400 + (low - 0xDC00)), remaining)
      else .error (.behind .loneSurrogate remaining)
  | '\\' :: rest => .error (.before .endInSurrogatePair rest)
  | rest => .error (.before .endInSurrogatePair rest)

def readEscape : List Char → Except Failure (Char × List Char)
  | [] => .error (.atEnd .endInString)
  | '"' :: rest => .ok ('"', rest)
  | '\\' :: rest => .ok ('\\', rest)
  | '/' :: rest => .ok ('/', rest)
  | 'b' :: rest => .ok ('\x08', rest)
  | 'f' :: rest => .ok ('\x0c', rest)
  | 'n' :: rest => .ok ('\n', rest)
  | 'r' :: rest => .ok ('\r', rest)
  | 't' :: rest => .ok ('\t', rest)
  | 'u' :: rest => do
      let (unit, remaining) ← readUnit rest
      if isLowSurrogate unit then .error (.behind .loneSurrogate remaining)
      else if isHighSurrogate unit then readLowSurrogate unit remaining
      else return (Char.ofNat unit, remaining)
  | rest => .error (.before .invalidEscape rest)

/-- Reads a string behind its opening quote, with `steps` characters at most. -/
def readCharacters : Nat → List Char → Except Failure (List Char × List Char)
  | 0, _ => .error (.atEnd .endInString)
  | _ + 1, [] => .error (.atEnd .endInString)
  | _ + 1, '"' :: rest => .ok ([], rest)
  | steps + 1, '\\' :: rest => do
      let (character, behind) ← readEscape rest
      let (characters, remaining) ← readCharacters steps behind
      return (character :: characters, remaining)
  | steps + 1, character :: rest =>
      if character.toNat < 0x20 then
        .error (.before .controlCharacter (character :: rest))
      else do
        let (characters, remaining) ← readCharacters steps rest
        return (character :: characters, remaining)

def readString (text : List Char) : Except Failure (String × List Char) := do
  let (characters, rest) ← readCharacters (text.length + 1) text
  return (String.ofList characters, rest)

/-! ## Lists and objects -/

abbrev ItemReader := List Char → Except Failure (Value × List Char)

/-- Reads a list behind one of its items, with `steps` more items at most. -/
def readFurtherItems
    (readItem : ItemReader) :
    Nat → List Char → Except Failure (List Value × List Char)
  | 0, _ => .error (.atEnd .endInList)
  | steps + 1, text =>
      match skipSpace text with
      | [] => .error (.atEnd .endInList)
      | ']' :: rest => .ok ([], rest)
      | ',' :: rest =>
          match skipSpace rest with
          | [] => .error (.atEnd .endInValue)
          | ']' :: behind => .error (.before .trailingComma (']' :: behind))
          | item => do
              let (value, behind) ← readItem item
              let (values, remaining) ← readFurtherItems readItem steps behind
              return (value :: values, remaining)
      | rest => .error (.before .expectedListEnd rest)

def readItems
    (readItem : ItemReader)
    (text : List Char) :
    Except Failure (List Value × List Char) :=
  match skipSpace text with
  | [] => .error (.atEnd .endInList)
  | ']' :: rest => .ok ([], rest)
  | item => do
      let (value, behind) ← readItem item
      let (values, remaining) ← readFurtherItems readItem (behind.length + 1) behind
      return (value :: values, remaining)

/-- Reads a member behind the opening quote of its name. -/
def readMember
    (readItem : ItemReader)
    (text : List Char) :
    Except Failure ((String × Value) × List Char) := do
  let (name, behind) ← readString text
  match skipSpace behind with
  | [] => .error (.atEnd .endInObject)
  | ':' :: rest =>
      let (value, remaining) ← readItem rest
      return ((name, value), remaining)
  | rest => .error (.before .expectedColon rest)

/-- Reads an object behind one of its members, with `steps` more members at most. -/
def readFurtherMembers
    (readItem : ItemReader) :
    Nat → List Char → Except Failure (List (String × Value) × List Char)
  | 0, _ => .error (.atEnd .endInObject)
  | steps + 1, text =>
      match skipSpace text with
      | [] => .error (.atEnd .endInObject)
      | '}' :: rest => .ok ([], rest)
      | ',' :: rest =>
          match skipSpace rest with
          | [] => .error (.atEnd .endInValue)
          | '"' :: name => do
              let (member, behind) ← readMember readItem name
              let (members, remaining) ← readFurtherMembers readItem steps behind
              return (member :: members, remaining)
          | '}' :: behind => .error (.before .trailingComma ('}' :: behind))
          | behind => .error (.before .keyNotString behind)
      | rest => .error (.before .expectedObjectEnd rest)

/-- Reads an object behind its opening brace. -/
def readMembers
    (readItem : ItemReader)
    (text : List Char) :
    Except Failure (List (String × Value) × List Char) :=
  match skipSpace text with
  | [] => .error (.atEnd .endInObject)
  | '}' :: rest => .ok ([], rest)
  | '"' :: name => do
      let (member, behind) ← readMember readItem name
      let (members, remaining) ← readFurtherMembers readItem (behind.length + 1) behind
      return (member :: members, remaining)
  | rest => .error (.before .keyNotString rest)

/-! ## Documents -/

/-- Reads a value in which at most `levels` lists and objects are nested. -/
def readValue (levels : Nat) (text : List Char) : Except Failure (Value × List Char) :=
  match skipSpace text with
  | [] => .error (.atEnd .endInValue)
  | 'n' :: rest => do
      let remaining ← readLiteral ['u', 'l', 'l'] rest
      return (.null, remaining)
  | 't' :: rest => do
      let remaining ← readLiteral ['r', 'u', 'e'] rest
      return (.boolean true, remaining)
  | 'f' :: rest => do
      let remaining ← readLiteral ['a', 'l', 's', 'e'] rest
      return (.boolean false, remaining)
  | '"' :: rest => do
      let (value, remaining) ← readString rest
      return (.string value, remaining)
  | '-' :: rest => do
      let (value, remaining) ← readNumber false rest
      return (.number value, remaining)
  | '[' :: rest =>
      match levels with
      | 0 => .error (.before .nestingLimit ('[' :: rest))
      | inner + 1 => do
          let (items, remaining) ← readItems (readValue inner) rest
          return (.array items, remaining)
  | '{' :: rest =>
      match levels with
      | 0 => .error (.before .nestingLimit ('{' :: rest))
      | inner + 1 => do
          let (members, remaining) ← readMembers (readValue inner) rest
          return (.object members, remaining)
  | character :: rest =>
      if character.isDigit then do
        let (value, remaining) ← readNumber true (character :: rest)
        return (.number value, remaining)
      else .error (.before .expectedValue (character :: rest))

/-- How many lists and objects may be nested. -/
def nestingLimit : Nat := 127

/-- Reads a document: one value, and nothing but space behind it. -/
def readDocument (text : List Char) : Except Failure Value := do
  let (value, behind) ← readValue nestingLimit text
  match skipSpace behind with
  | [] => return value
  | rest => .error (.before .trailingCharacters rest)

def parse (document : String) : Except SyntaxError Value :=
  match readDocument document.toList with
  | .ok value => .ok value
  | .error failure => .error (failure.locate document.toList)

end ReportIndex.Json
