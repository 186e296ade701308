import ReportIndex.Text.Quoted

/-!
Contract: what the program reports about its work.

Owns:
- the levels, and their order;
- events with their target, message and fields, as data;
- the line that an event is written as, in which a message cannot steer the
  terminal that shows it.

Does not own: which events are shown.
-/

namespace ReportIndex.Log

/-- How much an event matters, the most important first. -/
inductive Level where
  | error
  | warn
  | info
  | debug
  | trace
deriving DecidableEq, Repr

/-- The place of a level in the order: an event is shown up to a given rank. -/
def Level.rank : Level → Nat
  | .error => 1
  | .warn => 2
  | .info => 3
  | .debug => 4
  | .trace => 5

def Level.name : Level → String
  | .error => "ERROR"
  | .warn => "WARN"
  | .info => "INFO"
  | .debug => "DEBUG"
  | .trace => "TRACE"

/-- The part of the program that an event comes from. -/
inductive Target where
  | program
  | render
  | check
  | page
  | catalog
  | config
deriving DecidableEq, Repr

def Target.name : Target → String
  | .program => "reports_gen"
  | .render => "reports_gen::commands::render"
  | .check => "reports_gen::commands::check"
  | .page => "reports_page"
  | .catalog => "reports_page::types"
  | .config => "reports_page::config"

/-- The value of a field: a text is quoted in a line, a number and a path are
not. -/
inductive FieldValue where
  | text (value : String)
  | plain (value : String)
deriving DecidableEq, Repr

/-- The value without quotes. -/
def FieldValue.bare : FieldValue → String
  | .text value => value
  | .plain value => value

/-- The value as a line shows it. -/
def FieldValue.shown : FieldValue → String
  | .text value => Text.quote value
  | .plain value => value

def FieldValue.count (value : Nat) : FieldValue := .plain (toString value)

structure Event where
  level : Level
  target : Target
  message : String
  fields : List (String × FieldValue) := []
deriving DecidableEq, Repr

/-- The names of an event's fields; its message is one of them. -/
def Event.fieldNames (event : Event) : List String :=
  "message" :: event.fields.map Prod.fst

/-- The ASCII controls that can begin or belong to a terminal's commands: bell,
backspace, form feed, escape and delete. -/
def terminalControls : List Char := ['\x07', '\x08', '\x0c', '\x1b', '\x7f']

/-- One character of a message as a line shows it: a control that a terminal
could obey is written as its code, everything else as itself. -/
def shownCharacter (character : Char) : List Char :=
  let code := character.toNat
  if terminalControls.contains character then
    ['\\', 'x', Nat.digitChar (code / 16), Nat.digitChar (code % 16)]
  else if 0x80 ≤ code ∧ code ≤ 0x9F then
    ['\\', 'u', '{'] ++ Nat.toDigits 16 code ++ ['}']
  else [character]

/-- The message as a line shows it. -/
def Event.shownMessage (event : Event) : String :=
  String.ofList (event.message.toList.flatMap shownCharacter)

/-- The line that an event is written as. -/
def Event.line (event : Event) : String :=
  let fields := event.fields.map fun field => " " ++ field.1 ++ "=" ++ field.2.shown
  event.level.name ++ " " ++ event.target.name ++ ": " ++ event.shownMessage ++ String.join fields

end ReportIndex.Log
