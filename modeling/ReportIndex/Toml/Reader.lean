import ReportIndex.Text.Blank
import ReportIndex.Toml.Assembly
import ReportIndex.Toml.Scalar
import ReportIndex.Toml.Text

/-!
Contract: the table that a TOML document holds, or that it holds none.

Owns:
- comments and line breaks;
- keys, values and statements;
- the limits on nested arrays and inline tables, and on the parts of a key.

Does not own: which statements agree with each other.

Line breaks and comments are allowed in inline tables, on both sides of the equals
sign too, and so is a comma behind the last pair.
-/

namespace ReportIndex.Toml

/-- What follows a comment, up to its line break; a comment holds no controls. -/
def skipComment? (text : List Char) : Option (List Char) :=
  let comment := text.takeWhile (· != '\n')
  let rest := text.dropWhile (· != '\n')
  let content :=
    if comment.getLast? = some '\r' ∧ !rest.isEmpty then comment.dropLast else comment
  if content.all isPlain then some rest else none

/-- What follows blanks, line breaks and comments. -/
def skipLines? : Nat → List Char → Option (List Char)
  | 0, text => some text
  | steps + 1, text =>
      match text.dropWhile isSpace with
      | '#' :: comment =>
          match skipComment? comment with
          | some rest => skipLines? steps rest
          | none => none
      | behind =>
          match readLineBreak? behind with
          | some rest => skipLines? steps rest
          | none => some behind

/-- What follows blanks, line breaks and comments; a text has no more of them
than characters. -/
def skipBetween? (text : List Char) : Option (List Char) :=
  skipLines? (text.length + 1) text

/-! ## Keys -/

/-- The characters of a key without quotes. -/
def isBareKey (character : Char) : Bool :=
  character.isAlphanum || character == '-' || character == '_'

def readKeyPart? (text : List Char) : Option (String × List Char) :=
  match text with
  | '"' :: _ => readLineText? text
  | '\'' :: _ => readLineText? text
  | _ =>
      match text.takeWhile isBareKey with
      | [] => none
      | part => some (String.ofList part, text.dropWhile isBareKey)

/-- Reads at most so many parts of a key, between dots and with blanks around
them. -/
def readKeyParts? : Nat → List Char → Option (List String × List Char)
  | 0, _ => none
  | parts + 1, text =>
      match readKeyPart? (text.dropWhile isSpace) with
      | none => none
      | some (part, behind) =>
          match behind.dropWhile isSpace with
          | '.' :: rest =>
              (readKeyParts? parts rest).map fun found => (part :: found.1, found.2)
          | rest => some ([part], rest)

/-- How many parts a key may have. -/
def keyLimit : Nat := 80

def readKey? (text : List Char) : Option (List String × List Char) :=
  readKeyParts? keyLimit text

/-! ## Values -/

/-- The characters at which a value without quotes or brackets ends. Tabs may stand
inside of it, but none at its end. -/
def endsScalar (character : Char) : Bool :=
  character == ' ' || character == '\n' || character == '\r' || character == ','
    || character == '=' || character == '[' || character == ']' || character == '{'
    || character == '}' || character == '#'

/-- Whether quotes are opened inside a value: a quote opens them behind a tab, and
is like any other character elsewhere. -/
def opensQuotes : List Char → Bool
  | [] => false
  | '\t' :: '"' :: _ => true
  | '\t' :: '\'' :: _ => true
  | _ :: rest => opensQuotes rest

/-- The value without quotes or brackets at the beginning of a text, and what
follows it. -/
def splitScalar (text : List Char) : List Char × List Char :=
  let token := Text.dropEndWhile (· == '\t') (text.takeWhile (!endsScalar ·))
  (token, text.drop token.length)

/-- Reads a value without quotes or brackets. One blank may stand between a
date and a time. -/
def readScalar? (text : List Char) : Option (Value × List Char) :=
  let (token, rest) := splitScalar text
  let (whole, behind) :=
    match isDate token, rest with
    | true, ' ' :: digit :: further =>
        if digit.isDigit then
          let (time, remaining) := splitScalar (digit :: further)
          (token ++ ' ' :: time, remaining)
        else (token, rest)
    | _, _ => (token, rest)
  if opensQuotes whole then none
  else (scalar? whole).map fun value => (value, behind)

abbrev ValueReader := List Char → Option (Value × List Char)

/-- Reads the items of an array behind its opening bracket or a comma, and its
end. -/
def readItems? (readItem : ValueReader) : Nat → List Char → Option (List Value × List Char)
  | 0, _ => none
  | steps + 1, text =>
      match skipBetween? text with
      | none => none
      | some (']' :: rest) => some ([], rest)
      | some item =>
          match readItem item with
          | none => none
          | some (value, behind) =>
              match skipBetween? behind with
              | some (',' :: rest) =>
                  (readItems? readItem steps rest).map fun found => (value :: found.1, found.2)
              | some (']' :: rest) => some ([value], rest)
              | _ => none

abbrev Pair := List String × String × Value

/-- Reads a key, the sign behind it, and a value; `skip?` passes over what may
stand on both sides of the sign. -/
def readPair?
    (skip? : List Char → Option (List Char))
    (readItem : ValueReader)
    (text : List Char) :
    Option (Pair × List Char) := do
  let (key, behind) ← readKey? text
  match ← skip? behind with
  | '=' :: rest =>
      let last ← key.getLast?
      let (value, remaining) ← readItem (← skip? rest)
      return ((key.dropLast, last, value), remaining)
  | _ => none

/-- Reads the pairs of an inline table behind its opening brace or a comma, and
its end. -/
def readPairs? (readItem : ValueReader) : Nat → List Char → Option (List Pair × List Char)
  | 0, _ => none
  | steps + 1, text =>
      match skipBetween? text with
      | none => none
      | some ('}' :: rest) => some ([], rest)
      | some start =>
          match readPair? skipBetween? readItem start with
          | none => none
          | some (pair, behind) =>
              match skipBetween? behind with
              | some (',' :: rest) =>
                  (readPairs? readItem steps rest).map fun found => (pair :: found.1, found.2)
              | some ('}' :: rest) => some ([pair], rest)
              | _ => none

/-- Reads a value in which at most `levels` arrays and inline tables are nested. -/
def readValue? (levels : Nat) (text : List Char) : Option (Value × List Char) :=
  match text with
  | '"' :: _ => (readText? text).map fun found => (.string found.1, found.2)
  | '\'' :: _ => (readText? text).map fun found => (.string found.1, found.2)
  | '[' :: rest =>
      match levels with
      | 0 => none
      | inner + 1 =>
          (readItems? (readValue? inner) (rest.length + 1) rest).map fun found =>
            (.array found.1, found.2)
  | '{' :: rest =>
      match levels with
      | 0 => none
      | inner + 1 =>
          match readPairs? (readValue? inner) (rest.length + 1) rest with
          | some (pairs, behind) => (assembleInline pairs).map fun value => (value, behind)
          | none => none
  | _ => readScalar? text

/-- How many arrays and inline tables may be nested. -/
def nestingLimit : Nat := 80

/-! ## Documents -/

def readStatement? (text : List Char) : Option (Statement × List Char) :=
  match text with
  | '[' :: '[' :: rest =>
      match readKey? rest with
      | some (path, ']' :: ']' :: behind) => some (.itemHeading path, behind)
      | _ => none
  | '[' :: rest =>
      match readKey? rest with
      | some (path, ']' :: behind) => some (.heading path, behind)
      | _ => none
  | _ =>
      (readPair? (fun blanks => some (blanks.dropWhile isSpace)) (readValue? nestingLimit)
        text).map fun found => (.pair found.1.1 found.1.2.1 found.1.2.2, found.2)

/-- What follows the rest of a line, in which only a comment may stand. -/
def endLine? (text : List Char) : Option (List Char) :=
  match text.dropWhile isSpace with
  | [] => some []
  | '#' :: comment => skipComment? comment
  | behind => readLineBreak? behind

def readStatements? : Nat → List Char → Option (List Statement)
  | 0, _ => none
  | steps + 1, text =>
      match skipBetween? text with
      | none => none
      | some [] => some []
      | some start =>
          match readStatement? start with
          | none => none
          | some (statement, behind) =>
              match endLine? behind with
              | none => none
              | some rest => (readStatements? steps rest).map (statement :: ·)

/-- A document without the byte order mark that it may begin with. -/
def dropByteOrderMark : List Char → List Char
  | '\uFEFF' :: rest => rest
  | text => text

def parse? (document : String) : Option Table := do
  let text := dropByteOrderMark document.toList
  assemble (← readStatements? (text.length + 1) text)

end ReportIndex.Toml
