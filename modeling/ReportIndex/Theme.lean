import ReportIndex.Text.Blank

/-!
Contract: the two settings that are chosen from a short list of words, and the
words for them.

Owns:
- the theme that a page is first painted with;
- the encoding of versions in links;
- both readings of their words: the forgiving one of a command line, and the
  exact one of a document.

Does not own: the strategies that an encoding stands for.
-/

namespace ReportIndex

/-- The theme a page is first painted with.

Both illustrations of a card are always there; the theme only decides the class
of the document's root. -/
inductive Theme where
  | light
  | dark
  | system
deriving DecidableEq, Repr

namespace Theme

def name : Theme → String
  | .light => "light"
  | .dark => "dark"
  | .system => "system"

/-- The class of the document's root; `system` leaves the choice to the browser. -/
def rootClass : Theme → Option String
  | .light => some "light"
  | .dark => some "dark"
  | .system => none

def ofName? (word : String) : Option Theme :=
  if word = "light" then some .light
  else if word = "dark" then some .dark
  else if word = "system" then some .system
  else none

/-- A word that names no theme, in lower case and without blanks at its ends. -/
structure Unknown where
  word : String
deriving DecidableEq, Repr

def Unknown.message (error : Unknown) : String :=
  "unknown theme '" ++ error.word ++ "' (expected light, dark or system)"

/-- The theme that a user means by `text`: case and blanks at the ends do not
matter, and `auto` is another word for `system`. -/
def ofText (text : String) : Except Unknown Theme :=
  let word := Text.lowerAscii (Text.trim text)
  if word = "auto" then .ok .system
  else
    match ofName? word with
    | some theme => .ok theme
    | none => .error ⟨word⟩

end Theme

/-- How a version is written into links. -/
inductive LinkEncoding where
  | query
  | path
deriving DecidableEq, Repr

namespace LinkEncoding

def name : LinkEncoding → String
  | .query => "query"
  | .path => "path"

def ofName? (word : String) : Option LinkEncoding :=
  if word = "query" then some .query
  else if word = "path" then some .path
  else none

/-- A word that names no encoding, in lower case and without blanks at its ends. -/
structure Unknown where
  word : String
deriving DecidableEq, Repr

def Unknown.message (error : Unknown) : String :=
  "unknown link strategy '" ++ error.word ++ "' (expected query or path)"

/-- The encoding that a user means by `text`: case and blanks at the ends do not
matter. -/
def ofText (text : String) : Except Unknown LinkEncoding :=
  let word := Text.lowerAscii (Text.trim text)
  match ofName? word with
  | some encoding => .ok encoding
  | none => .error ⟨word⟩

end LinkEncoding

end ReportIndex
