import ReportIndex.Text.Visible

/-!
Contract: the quoted form in which a message shows a text, so that a reader
sees every character of it.

Owns:
- `quote`: double quotes around the text, with escapes for the quote, the
  backslash and every character that is not shown as itself.

Does not own: the string syntax of JSON or TOML.
-/

namespace ReportIndex.Text

/-- One character inside the quotes.

NUL, tab, line feed and carriage return have short escapes; any other hidden
character is written as its code point in hexadecimal. -/
def quoteCharacter (character : Char) : List Char :=
  if character = '\x00' then ['\\', '0']
  else if character = '\t' then ['\\', 't']
  else if character = '\n' then ['\\', 'n']
  else if character = '\r' then ['\\', 'r']
  else if character = '"' then ['\\', '"']
  else if character = '\\' then ['\\', '\\']
  else if isVisible character then [character]
  else ['\\', 'u', '{'] ++ Nat.toDigits 16 character.toNat ++ ['}']

def quote (text : String) : String :=
  String.ofList ('"' :: text.toList.flatMap quoteCharacter ++ ['"'])

end ReportIndex.Text
