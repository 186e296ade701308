import ReportIndex.Text.Blank

/-!
Contract: markup as a tree, and its text.

Owns:
- elements, void elements, texts, raw texts and markers;
- the escaping of texts and attribute values, done here and nowhere else.

Does not own: which elements a page has.
-/

namespace ReportIndex.Markup

structure Attribute where
  name : String
  value : String
deriving DecidableEq, Repr

/-- A piece of markup. -/
inductive Node where
  | text (content : String)
  /-- The content of a style sheet or script, which is not escaped. -/
  | raw (content : String)
  /-- The end of a list, or the place of a part that is absent. -/
  | marker
  /-- An element without content and end tag. -/
  | void (tag : String) (attributes : List Attribute) (classes : Option String)
  | element
      (tag : String)
      (attributes : List Attribute)
      (classes : Option String)
      (children : List Node)
deriving Repr, Inhabited

/-- One character of a text. -/
def escapeTextCharacter (character : Char) : List Char :=
  if character = '&' then ['&', 'a', 'm', 'p', ';']
  else if character = '<' then ['&', 'l', 't', ';']
  else if character = '>' then ['&', 'g', 't', ';']
  else [character]

/-- One character of an attribute's value. -/
def escapeValueCharacter (character : Char) : List Char :=
  if character = '"' then ['&', 'q', 'u', 'o', 't', ';']
  else escapeTextCharacter character

/-- A text between tags; an empty one is written as one blank, so that it still
has a place. -/
def escapeText (content : String) : List Char :=
  match content.toList with
  | [] => [' ']
  | characters => characters.flatMap escapeTextCharacter

def escapeValue (value : String) : List Char :=
  value.toList.flatMap escapeValueCharacter

def Attribute.write (given : Attribute) : List Char :=
  ' ' :: given.name.toList ++ '=' :: '"' :: escapeValue given.value ++ ['"']

/-- The attributes of a tag: the classes come last, without blanks at the ends
of their list. -/
def writeAttributes (attributes : List Attribute) (classes : Option String) : List Char :=
  attributes.flatMap Attribute.write
    ++ match classes with
      | none => []
      | some names => Attribute.write ⟨"class", Text.trim names⟩

def openTag (tag : String) (attributes : List Attribute) (classes : Option String) : List Char :=
  '<' :: tag.toList ++ writeAttributes attributes classes ++ ['>']

def closeTag (tag : String) : List Char :=
  '<' :: '/' :: tag.toList ++ ['>']

mutual

/-- The text of a piece of markup. -/
def Node.write : Node → List Char
  | .text content => escapeText content
  | .raw content => content.toList
  | .marker => ['<', '!', '>']
  | .void tag attributes classes => openTag tag attributes classes
  | .element tag attributes classes children =>
      openTag tag attributes classes ++ writeAll children ++ closeTag tag

/-- The text of pieces of markup in a row: nothing stands between them. -/
def writeAll : List Node → List Char
  | [] => []
  | node :: nodes => node.write ++ writeAll nodes

end

def Node.render (node : Node) : String :=
  String.ofList node.write

def renderAll (nodes : List Node) : String :=
  String.ofList (writeAll nodes)

@[simp]
theorem writeAll_append (left right : List Node) :
    writeAll (left ++ right) = writeAll left ++ writeAll right := by
  induction left with
  | nil => simp [writeAll]
  | cons head tail inductionHypothesis => simp [writeAll, inductionHypothesis]

end ReportIndex.Markup
