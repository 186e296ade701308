/-!
Contract: another text in the place of a part.

Owns:
- replacing the first occurrence of a pattern.

Does not own: what is replaced in which text.
-/

namespace ReportIndex.Text

/-- The text with `replacement` in place of the first occurrence of `pattern`, if there
is one. -/
def replaceFirst (pattern replacement : List Char) : List Char → List Char
  | [] => if pattern.isEmpty then replacement else []
  | first :: rest =>
      if pattern.isPrefixOf (first :: rest) then
        replacement ++ (first :: rest).drop pattern.length
      else first :: replaceFirst pattern replacement rest

end ReportIndex.Text
