/-!
Contract: which characters are blank, and what is left of a text without the
blanks at its two ends.

Owns:
- the class of blank characters (the Unicode property White_Space);
- `trim`, and the test whether a text is blank;
- letters in lower case.

Does not own: the separators of a file format, which each format states itself.
-/

namespace ReportIndex.Text

/-- The characters with the Unicode property White_Space.

The separators U+001C to U+001F, U+180E, U+200B and U+FEFF do not have it. -/
def isBlank (character : Char) : Bool :=
  let code := character.toNat
  (0x9 ≤ code && code ≤ 0xD) || code == 0x20 || code == 0x85 || code == 0xA0
    || code == 0x1680 || (0x2000 ≤ code && code ≤ 0x200A) || code == 0x2028
    || code == 0x2029 || code == 0x202F || code == 0x205F || code == 0x3000

/-- `characters` without the longest run at its end that satisfies `drop`. -/
def dropEndWhile (drop : Char → Bool) (characters : List Char) : List Char :=
  (characters.reverse.dropWhile drop).reverse

/-- `characters` without the blanks at both ends. -/
def trimBlanks (characters : List Char) : List Char :=
  dropEndWhile isBlank (characters.dropWhile isBlank)

def trim (text : String) : String :=
  String.ofList (trimBlanks text.toList)

/-- A text is blank when every character of it is, so also when it is empty. -/
def isBlankText (text : String) : Bool :=
  text.toList.all isBlank

/-- `text` in lower case, where only the letters `A` to `Z` have one. -/
def lowerAscii (text : String) : String :=
  String.ofList (text.toList.map Char.toLower)

end ReportIndex.Text
