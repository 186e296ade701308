import ReportIndex.Theme

/-!
Contract: reading the words of a command line against a list of options.

Owns:
- options with the kind of value they take;
- reading the words of one level, up to a subcommand if the level has any;
- the notices with which a command line is turned away.

Does not own: which options the program has.

A value may stand behind `=` or be the next word, unless that begins with a
dash; a single dash is a value. What is wrong with a value that is the next
word comes to light when the next option is read, or at the end.
-/

namespace ReportIndex.Command

/-- Why a command line is answered without running a command. -/
inductive UsageNotice where
  | helpRequested
  | versionRequested
  /-- No word at all. -/
  | nothingAsked
  | missingCommand
  | unknownCommand
  | missingArgument
  | unknownArgument
  /-- An option without the value it needs, or with an empty path. -/
  | missingValue
  /-- A value that is none of the words an option accepts. -/
  | unacceptedValue
  | repeatedOption
  /-- A flag with a value. -/
  | unexpectedValue
deriving DecidableEq, Repr

/-- The exit status of a command line that is turned away. -/
def UsageNotice.exitStatus : UsageNotice → Nat
  | .helpRequested => 0
  | .versionRequested => 0
  | _ => 2

inductive ValueKind where
  /-- Nothing. -/
  | flag
  /-- Any text. -/
  | text
  /-- A text that is not empty. -/
  | path
  /-- A theme's word. -/
  | theme
  /-- An encoding's word. -/
  | encoding
deriving DecidableEq, Repr

/-- What is wrong with a value of a kind, if anything. -/
def ValueKind.check (kind : ValueKind) (value : String) : Except UsageNotice Unit :=
  match kind with
  | .flag => .ok ()
  | .text => .ok ()
  | .path => if value.isEmpty then .error .missingValue else .ok ()
  | .theme => (Theme.ofText value).mapError (fun _ => .unacceptedValue) |>.map fun _ => ()
  | .encoding => (LinkEncoding.ofText value).mapError (fun _ => .unacceptedValue) |>.map fun _ => ()

structure OptionSpec where
  name : String
  kind : ValueKind
deriving DecidableEq, Repr

/-- The options of one level of the command line, and the subcommands that can
follow them; the level below a subcommand has none. -/
structure Level where
  options : List OptionSpec
  subcommands : List String
deriving DecidableEq, Repr

/-- Only a level with subcommands tells the program's version. -/
def Level.isTop (level : Level) : Bool := !level.subcommands.isEmpty

/-- The options that have been read, with their values, the last one first. -/
abbrev Given := List (String × String)

def Given.value? (given : Given) (name : String) : Option String := given.lookup name

def Given.has (given : Given) (name : String) : Bool := (given.value? name).isSome

/-- What has been read of a level: the options that are settled, and the one
whose value is awaited or has just been read. -/
structure Progress where
  given : Given := []
  open? : Option (OptionSpec × Option String) := none

namespace Progress

/-- Settles an option with its value. No option can be given twice. -/
def settle (given : Given) (option : OptionSpec) (value : String) : Except UsageNotice Given := do
  if given.has option.name then .error .repeatedOption
  else
    option.kind.check value
    return (option.name, value) :: given

/-- Settles the option that is still open. -/
def close (progress : Progress) : Except UsageNotice Given :=
  match progress.open? with
  | none => .ok progress.given
  | some (_, none) => .error .missingValue
  | some (option, some value) => settle progress.given option value

def awaitsValue (progress : Progress) : Bool :=
  match progress.open? with
  | some (_, none) => true
  | _ => false

end Progress

/-- The notice for a word that is neither an option nor a value. -/
def Level.strayWord (level : Level) : UsageNotice :=
  if level.isTop then .unknownCommand else .unknownArgument

/-- Reads a word that begins with two dashes, which are left out here. -/
def Level.readLong
    (level : Level)
    (progress : Progress)
    (text : List Char) :
    Except UsageNotice Progress := do
  let name := String.ofList (text.takeWhile (· != '='))
  let value : Option String :=
    match text.dropWhile (· != '=') with
    | [] => none
    | _ :: value => some (String.ofList value)
  let notice? : Option UsageNotice :=
    if name = "help" then some .helpRequested
    else if name = "version" ∧ level.isTop then some .versionRequested
    else none
  match notice?, level.options.find? (·.name == name), value with
  | some _, _, some _ => .error .unexpectedValue
  | some notice, _, none => do
      let _ ← progress.close
      .error notice
  | none, none, _ => .error .unknownArgument
  | none, some ⟨_, .flag⟩, some _ => .error .unexpectedValue
  | none, some ⟨name, .flag⟩, none => do
      return { given := ← Progress.settle (← progress.close) ⟨name, .flag⟩ "" }
  | none, some option, some value => do
      return { given := ← Progress.settle (← progress.close) option value }
  | none, some option, none => do
      return { given := ← progress.close, open? := some (option, none) }

/-- The notice for a word that begins with a single dash, which is left out
here. Only the first letter counts: each of them ends the reading. -/
def Level.readShort
    (level : Level)
    (progress : Progress)
    (letters : List Char) :
    UsageNotice :=
  match letters.head?, progress.close with
  | some 'h', .error notice => notice
  | some 'h', .ok _ => .helpRequested
  | some 'V', closed =>
      if level.isTop then
        match closed with
        | .error notice => notice
        | .ok _ => .versionRequested
      else .unknownArgument
  | _, _ => .unknownArgument

/-- What a level's words say: its options, and the subcommand with the words
behind it. The option that is still open is settled by the caller. -/
def Level.read
    (level : Level)
    (progress : Progress) :
    List String → Except UsageNotice (Progress × Option (String × List String))
  | [] => .ok (progress, none)
  | word :: words =>
      if !progress.awaitsValue && level.subcommands.contains word then
        .ok (progress, some (word, words))
      else
        match word.toList with
        | ['-', '-'] =>
            match words with
            | [] => .ok (progress, none)
            | stray :: _ =>
                .error (if level.subcommands.contains stray then .unknownArgument
                  else level.strayWord)
        | '-' :: '-' :: text => do
            level.read (← level.readLong progress text) words
        | '-' :: letter :: letters => .error (level.readShort progress (letter :: letters))
        | _ =>
            match progress.open? with
            | some (option, none) =>
                level.read { progress with open? := some (option, some word) } words
            | _ => .error level.strayWord

end ReportIndex.Command
