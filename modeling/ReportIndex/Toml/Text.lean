import ReportIndex.Text.Digit
import ReportIndex.Toml.Basic

/-!
Contract: the quoted texts of TOML.

Owns:
- the characters that may stand in a document;
- the four kinds of quoted text, with their escapes.

Does not own: keys without quotes.

A reader takes the text behind the opening quotes and gives what it read with
the rest, or nothing if the text breaks a rule. Where a reader calls itself, a
count of steps bounds the calls; the text's length is always enough.
-/

namespace ReportIndex.Toml

/-- Tabs and everything but the controls. -/
def isPlain (character : Char) : Bool :=
  character == '\t' || (0x20 ≤ character.toNat && character.toNat != 0x7F)

def isSpace (character : Char) : Bool :=
  character == ' ' || character == '\t'

/-- What follows a line break at the beginning of a text. -/
def readLineBreak? : List Char → Option (List Char)
  | '\n' :: rest => some rest
  | '\r' :: '\n' :: rest => some rest
  | _ => none

/-- Reads a code point of `count` hexadecimal digits behind those already read. -/
def readCodePoint? : Nat → Nat → List Char → Option (Char × List Char)
  | 0, code, rest => if code.isValidChar then some (Char.ofNat code, rest) else none
  | _ + 1, _, [] => none
  | count + 1, code, character :: rest =>
      match Text.hexDigit? character with
      | some digit => readCodePoint? count (code * 16 + digit) rest
      | none => none

def readEscape? : List Char → Option (Char × List Char)
  | 'b' :: rest => some ('\x08', rest)
  | 't' :: rest => some ('\t', rest)
  | 'n' :: rest => some ('\n', rest)
  | 'f' :: rest => some ('\x0c', rest)
  | 'r' :: rest => some ('\r', rest)
  | 'e' :: rest => some ('\x1b', rest)
  | '"' :: rest => some ('"', rest)
  | '\\' :: rest => some ('\\', rest)
  | 'x' :: rest => readCodePoint? 2 0 rest
  | 'u' :: rest => readCodePoint? 4 0 rest
  | 'U' :: rest => readCodePoint? 8 0 rest
  | _ => none

/-- A character in front of what a reader has read. -/
def prepend (character : Char) (read : Option (List Char × List Char)) :
    Option (List Char × List Char) :=
  read.map fun found => (character :: found.1, found.2)

/-- Reads a text in double quotes. -/
def readBasic? : Nat → List Char → Option (List Char × List Char)
  | 0, _ => none
  | _ + 1, [] => none
  | _ + 1, '"' :: rest => some ([], rest)
  | steps + 1, '\\' :: rest =>
      match readEscape? rest with
      | some (character, behind) => prepend character (readBasic? steps behind)
      | none => none
  | steps + 1, character :: rest =>
      if isPlain character then prepend character (readBasic? steps rest) else none

def readLiteral? : List Char → Option (List Char × List Char)
  | [] => none
  | '\'' :: rest => some ([], rest)
  | character :: rest =>
      if isPlain character then prepend character (readLiteral? rest) else none

/-- What follows the blanks and line breaks at the beginning of a text. -/
def skipBlankLines : Nat → List Char → List Char
  | 0, text => text
  | steps + 1, text =>
      let behind := text.dropWhile isSpace
      match readLineBreak? behind with
      | some rest => skipBlankLines steps rest
      | none => behind

/-- The content and the rest where a text of several lines ends: it ends with
the last three of at most five quotes. -/
def endOfLines? (mark : Char) (text : List Char) : Option (List Char × List Char) :=
  let run := (text.takeWhile (· == mark)).length
  if run < 3 then none
  else
    let count := min run 5
    some (List.replicate (count - 3) mark, text.drop count)

/-- Reads a text of several lines in double quotes. A backslash at the end of a
line takes the line break and the blanks behind it away. -/
def readBasicLines? : Nat → List Char → Option (List Char × List Char)
  | 0, _ => none
  | _ + 1, [] => none
  | steps + 1, '"' :: rest =>
      match endOfLines? '"' ('"' :: rest) with
      | some found => some found
      | none => prepend '"' (readBasicLines? steps rest)
  | steps + 1, '\\' :: rest =>
      match readLineBreak? (rest.dropWhile isSpace) with
      | some behind => readBasicLines? steps (skipBlankLines behind.length behind)
      | none =>
          match readEscape? rest with
          | some (character, behind) => prepend character (readBasicLines? steps behind)
          | none => none
  | steps + 1, '\r' :: '\n' :: rest =>
      prepend '\r' (prepend '\n' (readBasicLines? steps rest))
  | steps + 1, character :: rest =>
      if isPlain character || character == '\n' then
        prepend character (readBasicLines? steps rest)
      else none

def readLiteralLines? : Nat → List Char → Option (List Char × List Char)
  | 0, _ => none
  | _ + 1, [] => none
  | steps + 1, '\'' :: rest =>
      match endOfLines? '\'' ('\'' :: rest) with
      | some found => some found
      | none => prepend '\'' (readLiteralLines? steps rest)
  | steps + 1, '\r' :: '\n' :: rest =>
      prepend '\r' (prepend '\n' (readLiteralLines? steps rest))
  | steps + 1, character :: rest =>
      if isPlain character || character == '\n' then
        prepend character (readLiteralLines? steps rest)
      else none

/-- A text without the line break that may directly follow its opening quotes. -/
def dropFirstBreak (text : List Char) : List Char :=
  (readLineBreak? text).getD text

/-- Reads a quoted text of one line, from its opening quote on. -/
def readLineText? : List Char → Option (String × List Char)
  | '"' :: rest => (readBasic? (rest.length + 1) rest).map fun found =>
      (String.ofList found.1, found.2)
  | '\'' :: rest => (readLiteral? rest).map fun found => (String.ofList found.1, found.2)
  | _ => none

/-- Reads a quoted text, from its opening quotes on. -/
def readText? : List Char → Option (String × List Char)
  | '"' :: '"' :: '"' :: rest =>
      (readBasicLines? (rest.length + 1) (dropFirstBreak rest)).map fun found =>
        (String.ofList found.1, found.2)
  | '\'' :: '\'' :: '\'' :: rest =>
      (readLiteralLines? (rest.length + 1) (dropFirstBreak rest)).map fun found =>
        (String.ofList found.1, found.2)
  | text => readLineText? text

end ReportIndex.Toml
