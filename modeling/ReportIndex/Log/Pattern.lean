import ReportIndex.Regex.Expression

/-!
Contract: which texts can stand for the value of a field.

Owns:
- numbers, with or without a sign and an exponent;
- the rule that every other value is given by a regular expression.

Does not own: which values a pattern matches. Values are asked of spans only, so
nothing is ever matched.

A pattern stands inside of braces and between equals signs, so it holds no closing
brace and no equals sign.
-/

namespace ReportIndex.Log

/-- Digits with at most one point among them, and at least one digit. -/
def isSignificand (text : List Char) : Bool :=
  text.any Char.isDigit && text.all (fun character => character.isDigit || character == '.')
    && text.count '.' ≤ 1

/-- Digits that a sign may stand before. -/
def isSignedWhole (text : List Char) : Bool :=
  let digits := Text.dropSign text
  !digits.isEmpty && digits.all Char.isDigit

/-- A decimal number, or one of the words for infinity and for no number. -/
def isNumber (text : List Char) : Bool :=
  let unsigned := (Text.dropSign text).map Char.toLower
  if ["inf", "infinity", "nan"].contains (String.ofList unsigned) then true
  else
    isSignificand (unsigned.takeWhile (· != 'e'))
      && match unsigned.dropWhile (· != 'e') with
        | [] => true
        | _ :: exponent => isSignedWhole exponent

/-- Whether a text can stand for the value of a field. -/
def isPattern (text : List Char) : Bool :=
  isNumber text || Regex.isExpression text

end ReportIndex.Log
