import ReportIndex.Regex.Mode
import ReportIndex.Text.Digit

/-!
Contract: the escapes of a regular expression.

Owns:
- what an escape stands for: a character, a class of characters, or a place;
- which escapes can stand outside and inside of brackets.

Does not own: everything without a backslash.

An expression that speaks about bytes may only ask for bytes that are ASCII, so
that what it matches is always made of whole characters; and the boundaries of
words are known for ASCII words only. Forms with braces are not read.
-/

namespace ReportIndex.Regex

/-- What an escape stands for. -/
inductive Escape where
  /-- A character. `isByte` says that its code is written as that of a byte. -/
  | character (value : Char) (isByte : Bool)
  /-- The digits, the blanks or the characters of words, or all others. -/
  | shorthand (isNegated : Bool)
  /-- The characters of a general category, or all others. -/
  | category
  /-- The beginning or the end of the text. -/
  | edge
  /-- A place where a word begins or ends, or where none does. -/
  | wordBoundary
deriving DecidableEq, Repr

/-- Reads a character by its code of `count` hexadecimal digits, behind those
already read. -/
def readCode? (mode : Mode) : Nat → Nat → List Char → Option (Char × List Char)
  | 0, code, rest => if code.isValidChar then some (Char.ofNat code, rest) else none
  | count + 1, code, text =>
      match mode.skip text with
      | [] => none
      | digit :: rest =>
          (Text.hexDigit? digit).bind fun value => readCode? mode count (code * 16 + value) rest

/-- The letters that name a general category of characters. -/
def categoryLetters : List Char := ['c', 'l', 'm', 'n', 'p', 's', 'z']

/-- What a single character behind a backslash stands for. Every ASCII character
that is neither a letter nor a digit nor an angle bracket stands for itself. -/
def shortEscape? (letter : Char) : Option Escape :=
  if ['d', 's', 'w'].contains letter then some (.shorthand false)
  else if ['D', 'S', 'W'].contains letter then some (.shorthand true)
  else if ['A', 'z'].contains letter then some .edge
  else if ['b', 'B', '<', '>'].contains letter then some .wordBoundary
  else if letter = 'a' then some (.character '\x07' false)
  else if letter = 'f' then some (.character '\x0c' false)
  else if letter = 't' then some (.character '\t' false)
  else if letter = 'n' then some (.character '\n' false)
  else if letter = 'r' then some (.character '\r' false)
  else if letter = 'v' then some (.character '\x0b' false)
  else if letter.toNat < 0x80 ∧ ¬letter.isAlphanum then some (.character letter false)
  else none

/-- Reads a category by its letter. -/
def readCategory? (mode : Mode) (text : List Char) : Option (Escape × List Char) :=
  match mode.skip text with
  | [] => none
  | letter :: rest =>
      if categoryLetters.contains letter.toLower then some (.category, rest) else none

def readEscape? (mode : Mode) : List Char → Option (Escape × List Char)
  | [] => none
  | 'x' :: rest => (readCode? mode 2 0 rest).map fun found => (.character found.1 true, found.2)
  | 'u' :: rest => (readCode? mode 4 0 rest).map fun found => (.character found.1 false, found.2)
  | 'U' :: rest => (readCode? mode 8 0 rest).map fun found => (.character found.1 false, found.2)
  | 'p' :: rest => readCategory? mode rest
  | 'P' :: rest => readCategory? mode rest
  | letter :: rest => (shortEscape? letter).map fun escape => (escape, rest)

def isAscii (character : Char) : Bool :=
  character.toNat < 0x80

/-- Whether an escape can stand outside of brackets. -/
def Escape.isPart (escape : Escape) (mode : Mode) : Bool :=
  match escape with
  | .character value isByte => mode.isUnicode || !isByte || isAscii value
  | .shorthand isNegated => mode.isUnicode || !isNegated
  | .category => mode.isUnicode
  | .edge => true
  | .wordBoundary => !mode.isUnicode

/-- Whether an escape, or a character without one, can stand in brackets. -/
def Escape.isClassItem (escape : Escape) (mode : Mode) : Bool :=
  match escape with
  | .character value _ => mode.isUnicode || isAscii value
  | .shorthand isNegated => mode.isUnicode || !isNegated
  | .category => mode.isUnicode
  | .edge => false
  | .wordBoundary => false

end ReportIndex.Regex
