import ReportIndex.Log.Directive

/-!
Contract: which events are shown.

Owns:
- filters, lists of directives, of which the most specific one decides;
- the text of a filter, and the choice between the environment and the command
  line.

Does not own: what a directive is about, and how events are written.
-/

namespace ReportIndex.Log

/-- Directives in the order in which they are given. -/
abbrev Filter := List Directive

namespace Filter

/-- Shows errors only. -/
def errorsOnly : Filter := [⟨none, .events, Level.error.rank⟩]

/-- The filter of a text: directives between commas, empty ones left out. The
first one that cannot be read makes the whole text useless. -/
def ofText (text : String) : Directive.Reading Filter := do
  let directives ← ((text.toList.splitOn ',').filter (!·.isEmpty)).mapM Directive.ofText
  return if directives.isEmpty then errorsOnly else directives

/-- The filter in use: the one of the environment if there is one and it can be
read, otherwise the one of the command line, and errors only if neither can. A
text that would have to be cut inside of a character leaves no filter at all, and
the program cannot start. -/
def choose? (environment : Option String) (commandLine : String) : Option Filter :=
  match environment.map ofText with
  | some (.ok filter) => some filter
  | some (.error .splitsCharacter) => none
  | _ =>
      match ofText commandLine with
      | .ok filter => some filter
      | .error .splitsCharacter => none
      | .error .unreadable => some errorsOnly

/-- The directive that decides about an event: the most specific one that is
about it, and of two equally specific ones the later. -/
def decisive? (filter : Filter) (event : Event) : Option Directive :=
  (filter.filter (·.isAbout event)).foldl (fun best directive =>
    match best with
    | none => some directive
    | some held => some (if directive.isMoreGeneral held then held else directive)) none

def shows (filter : Filter) (event : Event) : Bool :=
  match filter.decisive? event with
  | none => false
  | some directive => event.level.rank ≤ directive.most

end Filter

end ReportIndex.Log
