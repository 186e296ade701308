import ReportIndex.Json.Reader
import ReportIndex.Theme

/-!
Contract: the JSON form of a theme.

Owns:
- what is written for a theme: its word as a string;
- what is read as a theme: such a string, or an object whose only member has the
  word as its name and holds nothing.

Does not own: the words.
-/

namespace ReportIndex.Theme

def toJson (theme : Theme) : Json.Value :=
  .string theme.name

def ofValue? : Json.Value → Option Theme
  | .string word => ofName? word
  | .object [(word, .null)] => ofName? word
  | _ => none

def ofJson? (document : String) : Option Theme :=
  (Json.parse document).toOption.bind ofValue?

theorem ofValue?_toJson (theme : Theme) : ofValue? theme.toJson = some theme := by
  cases theme <;> rfl

end ReportIndex.Theme
