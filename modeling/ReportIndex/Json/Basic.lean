/-!
Contract: JSON documents as values.

Owns:
- the values, with the members of an object in document order and repetitions
  kept;
- the look-up of a member, where a later one of the same name wins.

Does not own: the text of a document.
-/

namespace ReportIndex.Json

/-- A number as it is told apart by readers: whole numbers of 64 bits stay
whole, every other one is a binary64 number. -/
inductive Number where
  /-- A whole number from zero to `2 ^ 64 - 1`. -/
  | natural (magnitude : Nat)
  /-- A whole number from `-1` down to `-2 ^ 63`, given without its sign. -/
  | negative (magnitude : Nat)
  | real (value : Float)
deriving DecidableEq, Repr

inductive Value where
  | null
  | boolean (value : Bool)
  | number (value : Number)
  | string (value : String)
  | array (items : List Value)
  | object (members : List (String × Value))
deriving Repr, Inhabited

/-- The member of this name; the last one if there are several. -/
def member? (members : List (String × Value)) (name : String) : Option Value :=
  (members.reverse.find? fun member => member.1 == name).map Prod.snd

end ReportIndex.Json
