/-!
Contract: TOML documents as values.

Owns:
- the values; numbers and times keep their spelling, because nothing here
  computes with them, and that of an integer need not be one of a number;
- the look-up in a table.

Does not own: the text of a document.
-/

namespace ReportIndex.Toml

inductive Value where
  | string (value : String)
  | boolean (value : Bool)
  | integer (spelling : String)
  | float (spelling : String)
  | time (spelling : String)
  | array (items : List Value)
  | table (entries : List (String × Value))
deriving Repr, Inhabited

/-- A table; no key stands in it twice. -/
abbrev Table := List (String × Value)

end ReportIndex.Toml
