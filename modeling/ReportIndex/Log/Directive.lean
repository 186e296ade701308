import ReportIndex.Log.Event
import ReportIndex.Log.Pattern
import ReportIndex.Text.Alphanumeric
import ReportIndex.Text.Blank
import ReportIndex.Text.Bytes
import ReportIndex.Text.Digit

/-!
Contract: the directives of a filter, each of which gives a level to some of the
events.

Owns:
- what a directive is about: the events of some targets, those of them that have
  a field, or spans;
- the text of a directive: a level, or a target with or without a span and a
  field in brackets and a level behind an equals sign; and why a text is none;
- the order of directives from general to specific.

Does not own: which of several directives decides about an event.

A span is a stretch of work that a program reports as a whole. This program
reports none, so a directive about spans shows nothing.
-/

namespace ReportIndex.Log

/-- What a directive is about within its targets. -/
inductive Subject where
  | events
  /-- The events that have a field of this name. -/
  | eventsWith (field : List Char)
  | spans
deriving DecidableEq, Repr

/-- The field that a subject asks for, if it asks for one. -/
def Subject.fields : Subject → List (List Char)
  | .events => []
  | .eventsWith field => [field]
  | .spans => []

/-- Shows events up to the rank `most`; rank zero shows none. The targets are
those whose names begin with `target`, and all of them if there is none. -/
structure Directive where
  target : Option (List Char)
  subject : Subject
  most : Nat
deriving DecidableEq, Repr

/-- The rank of everything. -/
def highestRank : Nat := Level.trace.rank

/-- The number that digits stand for; a plus sign may stand before them. -/
def number? (word : List Char) : Option Nat :=
  let digits := match word with
    | '+' :: rest => rest
    | _ => word
  if !digits.isEmpty && digits.all Char.isDigit then
    some (Text.digitsValue 10 digits)
  else none

/-- The rank that a level's name or number stands for. -/
def rank? (word : List Char) : Option Nat :=
  match number? word with
  | some number => if number ≤ highestRank then some number else none
  | none =>
      let lower := String.ofList (word.map Char.toLower)
      if lower = "off" then some 0
      else
        ([.error, .warn, .info, .debug, .trace].find? fun level : Level =>
          String.ofList (level.name.toList.map Char.toLower) == lower).map Level.rank

namespace Directive

/-! ## Reading -/

/-- Why a text is no directive. -/
inductive Fault where
  | unreadable
  /-- A word would begin or end inside of a character. -/
  | splitsCharacter
deriving DecidableEq, Repr

abbrev Reading (α : Type) := Except Fault α

/-- The text of a directive as it stands, and without the blanks around it.

The shape of a directive is made out on the text seen, whose suffixes stand for
the places in it. But its words are cut out of the text as it stands, as many
bytes from its beginning. So a blank in front moves all words, and no word with a
blank in it names a level or a target. -/
structure Source where
  text : List Char
  seen : List Char
deriving Repr

namespace Source

def ofText (text : List Char) : Source := ⟨text, Text.trimBlanks text⟩

/-- How many bytes of the text seen stand before a place. -/
def offset (source : Source) (place : List Char) : Nat :=
  Text.utf8Length source.seen - Text.utf8Length place

/-- The word from a place to the end. -/
def lastWord (source : Source) (start : List Char) : Reading (List Char) :=
  match Text.splitAtByte? (source.offset start) source.text with
  | some (_, behind) => .ok behind
  | none => .error .splitsCharacter

/-- The word between two places. -/
def word (source : Source) (start stop : List Char) : Reading (List Char) :=
  match Text.splitAtByte? (source.offset stop) source.text with
  | some (before, _) =>
      match Text.splitAtByte? (source.offset start) before with
      | some (_, cut) => .ok cut
      | none => .error .splitsCharacter
  | none => .error .splitsCharacter

end Source

/-- Whether a character can begin a directive that does not begin with a
bracket. -/
def canBegin (character : Char) : Bool :=
  Text.isAlphanumeric character || character == '-' || character == ':' || character == '_'

/-- A directive of one word: a level, or a target whose events are all shown. -/
def ofWord (text : List Char) : Directive :=
  match rank? text with
  | some most => ⟨none, .events, most⟩
  | none => ⟨some text, .events, highestRank⟩

/-- A directive whose level stands at a place; all events if nothing stands
there. -/
def readLevel
    (source : Source)
    (target : Option (List Char))
    (subject : Subject)
    (place : List Char) :
    Reading Directive := do
  let level ← source.lastWord place
  if level.isEmpty then return ⟨target, subject, highestRank⟩
  else
    match rank? level with
    | some most => return ⟨target, subject, most⟩
    | none => .error .unreadable

/-- Reads what follows the brackets: nothing, or a level. -/
def readEnd
    (source : Source)
    (target : Option (List Char))
    (subject : Subject)
    (place : List Char) :
    Reading Directive :=
  match place with
  | [] => .ok ⟨target, subject, highestRank⟩
  | '=' :: level => readLevel source target subject level
  | _ => .error .unreadable

/-- What a field in braces asks for. With an equals sign it asks for a value,
given by a pattern up to the next equals sign; only spans are asked for that. -/
def fieldSubject (field : List Char) : Reading Subject :=
  match field.dropWhile (· != '=') with
  | [] => if field.isEmpty then .error .unreadable else .ok (.eventsWith field)
  | _ :: value =>
      if isPattern (value.takeWhile (· != '=')) then .ok .spans else .error .unreadable

/-- Reads a field behind its opening brace, the closing brace and bracket, and
what follows. A span's name in front makes the directive one about spans. -/
def readField
    (source : Source)
    (target : Option (List Char))
    (hasSpan : Bool)
    (place : List Char) :
    Reading Directive := do
  match place.dropWhile (· != '}') with
  | [] => .error .unreadable
  | stop@(_ :: behind) =>
      let subject ← fieldSubject (← source.word place stop)
      match behind with
      | ']' :: rest => readEnd source target (if hasSpan then .spans else subject) rest
      | _ => .error .unreadable

/-- Reads what follows an opening bracket: the name of a span, a field in
braces, or both, then the closing bracket and a level. -/
def readBrackets
    (source : Source)
    (target : Option (List Char))
    (place : List Char) :
    Reading Directive := do
  match place.dropWhile (fun character => character != ']' && character != '{') with
  | [] => .error .unreadable
  | stop@(mark :: behind) =>
      let name ← source.word place stop
      if mark = ']' then readEnd source target .spans behind
      else readField source target (!name.isEmpty) behind

/-- The directive of a text. -/
def ofText (text : List Char) : Reading Directive := do
  let source := Source.ofText text
  match source.seen with
  | [] => .error .unreadable
  | '[' :: behind => readBrackets source none behind
  | first :: _ =>
      if canBegin first then
        match source.seen.dropWhile (fun character => character != '=' && character != '[') with
        | [] => return ofWord text
        | stop@(mark :: behind) =>
            let target ← source.word source.seen stop
            if mark = '=' then readLevel source (some target) .events behind
            else readBrackets source (some target) behind
      else .error .unreadable

/-! ## Order -/

def isAbout (directive : Directive) (event : Event) : Bool :=
  let isTarget := match directive.target with
    | none => true
    | some beginning => beginning.isPrefixOf event.target.name.toList
  isTarget && match directive.subject with
    | .events => true
    | .eventsWith field => event.fieldNames.contains (String.ofList field)
    | .spans => false

/-- How specific a directive's target is: a longer one is more specific, and
none at all is less specific than any. -/
def weight (directive : Directive) : Nat :=
  match directive.target with
  | none => 0
  | some beginning => beginning.length + 1

/-- Whether `first` is less specific than `second`. The target decides first;
then a field makes a directive more specific, and of two fields the one that
comes later in the order of texts. -/
def isMoreGeneral (first second : Directive) : Bool :=
  first.weight < second.weight
    || (first.weight == second.weight && first.subject.fields < second.subject.fields)

end Directive

end ReportIndex.Log
