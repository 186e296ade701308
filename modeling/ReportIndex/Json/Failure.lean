import ReportIndex.Text.Bytes

/-!
Contract: why a text is no JSON document, and where.

Owns:
- the causes, with their words;
- the position of a failure as line and column.

Does not own: the rules that a text breaks.
-/

namespace ReportIndex.Json

inductive Cause where
  | endInValue
  | endInList
  | endInObject
  | endInString
  | expectedValue
  | expectedLiteral
  | expectedColon
  | expectedListEnd
  | expectedObjectEnd
  | trailingComma
  | trailingCharacters
  | keyNotString
  | invalidNumber
  | numberOutOfRange
  | controlCharacter
  | invalidEscape
  | loneSurrogate
  | endInSurrogatePair
  | nestingLimit
deriving DecidableEq, Repr

def Cause.message : Cause → String
  | .endInValue => "EOF while parsing a value"
  | .endInList => "EOF while parsing a list"
  | .endInObject => "EOF while parsing an object"
  | .endInString => "EOF while parsing a string"
  | .expectedValue => "expected value"
  | .expectedLiteral => "expected ident"
  | .expectedColon => "expected `:`"
  | .expectedListEnd => "expected `,` or `]`"
  | .expectedObjectEnd => "expected `,` or `\x7d`"
  | .trailingComma => "trailing comma"
  | .trailingCharacters => "trailing characters"
  | .keyNotString => "key must be a string"
  | .invalidNumber => "invalid number"
  | .numberOutOfRange => "number out of range"
  | .controlCharacter => "control character (\\u0000-\\u001F) found while parsing a string"
  | .invalidEscape => "invalid escape"
  | .loneSurrogate => "lone leading surrogate in hex escape"
  | .endInSurrogatePair => "unexpected end of hex escape"
  | .nestingLimit => "recursion limit exceeded"

/-- A failure at a place: what is left of the text there, and how many bytes of
that the reader has looked at. -/
structure Failure where
  cause : Cause
  rest : List Char
  lookedAt : Nat
deriving DecidableEq, Repr

def Failure.atEnd (cause : Cause) : Failure := ⟨cause, [], 0⟩

/-- A failure at the first byte of the rest: it points just behind that byte. -/
def Failure.before (cause : Cause) (rest : List Char) : Failure := ⟨cause, rest, 1⟩

/-- A failure at what has just been read. -/
def Failure.behind (cause : Cause) (rest : List Char) : Failure := ⟨cause, rest, 0⟩

/-- A failure with the line, counted from one, and the number of bytes that
stand before it in that line. -/
structure SyntaxError where
  cause : Cause
  line : Nat
  column : Nat
deriving DecidableEq, Repr

def SyntaxError.message (error : SyntaxError) : String :=
  error.cause.message ++ " at line " ++ toString error.line ++ " column " ++ toString error.column

/-- The place of a failure in the text that was read. -/
def Failure.locate (failure : Failure) (text : List Char) : SyntaxError :=
  let offset := Text.utf8Length text - Text.utf8Length failure.rest + failure.lookedAt
  let before := ((String.ofList text).toUTF8.data.toList.take offset).reverse
  { cause := failure.cause
    line := before.count 10 + 1
    column := (before.takeWhile (· != 10)).length }

end ReportIndex.Json
