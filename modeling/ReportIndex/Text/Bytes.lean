/-!
Contract: lengths and places of texts in bytes of UTF-8.

Owns:
- the number of bytes that characters take;
- the two halves of a text at a place given in bytes.

Does not own: the bytes themselves.
-/

namespace ReportIndex.Text

def utf8Length (characters : List Char) : Nat :=
  characters.foldr (fun character length => character.utf8Size + length) 0

/-- The characters before and behind a place given in bytes; none if the place lies
inside of a character or behind the end. -/
def splitAtByte? : Nat → List Char → Option (List Char × List Char)
  | 0, characters => some ([], characters)
  | _ + 1, [] => none
  | count + 1, character :: rest =>
      if character.utf8Size ≤ count + 1 then
        (splitAtByte? (count + 1 - character.utf8Size) rest).map fun halves =>
          (character :: halves.1, halves.2)
      else none

end ReportIndex.Text
