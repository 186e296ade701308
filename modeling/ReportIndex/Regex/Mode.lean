import ReportIndex.Text.Blank

/-!
Contract: the flags of a regular expression, as far as they bear on whether it
can be read.

Owns:
- the two flags that change the reading: one lets blanks and comments stand
  between the parts, the other makes the expression speak about characters;
- which lists of flags can be written, and what they change;
- passing over blanks and comments.

Does not own: how far a flag reaches.
-/

namespace ReportIndex.Regex

/-- How an expression is read at a place. -/
structure Mode where
  /-- Blanks and comments between the parts are left out. -/
  isSpaced : Bool
  /-- The expression speaks about characters, not about bytes. -/
  isUnicode : Bool
deriving DecidableEq, Repr

/-- How an expression is read at its beginning. -/
def Mode.initial : Mode := ⟨false, true⟩

def flagLetters : List Char := ['i', 'm', 's', 'U', 'u', 'R', 'x']

/-- Flags to set, then, behind a hyphen, flags to clear; no flag comes twice, and
a hyphen stands before a flag. -/
def areFlags (flags : List Char) : Bool :=
  flags.all (fun flag => flag == '-' || flagLetters.contains flag)
    && decide flags.Nodup && flags.getLast? != some '-'

/-- What flags make of one of them that was `old` before. -/
def flagState (flags : List Char) (flag : Char) (old : Bool) : Bool :=
  if (flags.takeWhile (· != '-')).contains flag then true
  else if flags.contains flag then false
  else old

def Mode.withFlags (mode : Mode) (flags : List Char) : Mode :=
  ⟨flagState flags 'x' mode.isSpaced, flagState flags 'u' mode.isUnicode⟩

/-- What follows blanks and comments; a comment reaches from a number sign to the
end of the line. -/
def skipSpaced : Nat → List Char → List Char
  | 0, text => text
  | steps + 1, text =>
      match text.dropWhile Text.isBlank with
      | '#' :: comment => skipSpaced steps ((comment.dropWhile (· != '\n')).drop 1)
      | rest => rest

/-- The text at the next part. -/
def Mode.skip (mode : Mode) (text : List Char) : List Char :=
  if mode.isSpaced then skipSpaced (text.length + 1) text else text

/-- The character that the text goes on with. Of a comment only the number sign
is passed over here. -/
def Mode.peek? (mode : Mode) (text : List Char) : Option Char :=
  if mode.isSpaced then
    let following := match text.dropWhile Text.isBlank with
      | '#' :: comment => comment.dropWhile Text.isBlank
      | rest => rest
    following.head?.or text.head?
  else text.head?

end ReportIndex.Regex
