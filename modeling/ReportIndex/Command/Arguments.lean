import ReportIndex.Command.Option

/-!
Contract: what a user asks the program for.

Owns:
- the subcommands with their options;
- the request that a command line stands for.

Does not own: how a request is carried out.
-/

namespace ReportIndex.Command

structure RenderArguments where
  catalog : String
  out : Option String := none
  documentVersion : Option String := none
  theme : Option Theme := none
  assetBase : Option String := none
  encoding : Option LinkEncoding := none
  parameter : Option String := none
  title : Option String := none
  /-- Only the grid is asked for. -/
  fragment : Bool := false
deriving DecidableEq, Repr

structure CheckArguments where
  catalog : String
  assets : String
deriving DecidableEq, Repr

structure ListArguments where
  catalog : String
  documentVersion : Option String := none
  json : Bool := false
deriving DecidableEq, Repr

inductive Task where
  | render (arguments : RenderArguments)
  | check (arguments : CheckArguments)
  | list (arguments : ListArguments)
deriving DecidableEq, Repr

/-- A task with the settings that every task has. -/
structure Request where
  logLevel : String := "info"
  config : Option String := none
  task : Task
deriving DecidableEq, Repr

/-! ## The levels of the command line -/

/-- The options that may stand before and behind a subcommand. -/
def commonOptions : List OptionSpec :=
  [⟨"log-level", .text⟩, ⟨"config", .path⟩]

def topLevel : Level :=
  ⟨commonOptions, ["render", "check", "list", "help"]⟩

def renderLevel : Level :=
  ⟨[ ⟨"catalog", .path⟩,
      ⟨"out", .path⟩,
      ⟨"doc-version", .text⟩,
      ⟨"theme", .theme⟩,
      ⟨"asset-base", .text⟩,
      ⟨"strategy", .encoding⟩,
      ⟨"param", .text⟩,
      ⟨"title", .text⟩,
      ⟨"fragment", .flag⟩ ] ++ commonOptions, []⟩

def checkLevel : Level :=
  ⟨[⟨"catalog", .path⟩, ⟨"assets", .path⟩] ++ commonOptions, []⟩

def listLevel : Level :=
  ⟨[⟨"catalog", .path⟩, ⟨"doc-version", .text⟩, ⟨"json", .flag⟩] ++ commonOptions, []⟩

/-! ## Requests -/

def required (given : Given) (name : String) : Except UsageNotice String :=
  match given.value? name with
  | some value => .ok value
  | none => .error .missingArgument

def Task.ofRender (given : Given) : Except UsageNotice Task := do
  let catalog ← required given "catalog"
  return .render
    { catalog
      out := given.value? "out"
      documentVersion := given.value? "doc-version"
      theme := (given.value? "theme").bind fun word => (Theme.ofText word).toOption
      assetBase := given.value? "asset-base"
      encoding := (given.value? "strategy").bind fun word => (LinkEncoding.ofText word).toOption
      parameter := given.value? "param"
      title := given.value? "title"
      fragment := given.has "fragment" }

def Task.ofCheck (given : Given) : Except UsageNotice Task := do
  let catalog ← required given "catalog"
  let assets ← required given "assets"
  return .check { catalog, assets }

def Task.ofList (given : Given) : Except UsageNotice Task := do
  let catalog ← required given "catalog"
  return .list
    { catalog
      documentVersion := given.value? "doc-version"
      json := given.has "json" }

def Level.readAll (level : Level) (words : List String) : Except UsageNotice Given := do
  let (progress, _) ← level.read {} words
  progress.close

/-- The notice for `help` with the words behind it: one of the subcommands may
be named. -/
def readHelp (words : List String) : UsageNotice :=
  match words with
  | [] => .helpRequested
  | [word] => if topLevel.subcommands.contains word then .helpRequested else .unknownCommand
  | _ => .unknownCommand

def readTask (subcommand : String) (words : List String) : Except UsageNotice (Task × Given) := do
  if subcommand = "render" then
    let given ← renderLevel.readAll words
    return (← Task.ofRender given, given)
  else if subcommand = "check" then
    let given ← checkLevel.readAll words
    return (← Task.ofCheck given, given)
  else if subcommand = "list" then
    let given ← listLevel.readAll words
    return (← Task.ofList given, given)
  else .error (readHelp words)

/-- The request that the words of a command line stand for. An option behind the
subcommand wins over the same one before it. -/
def Request.ofWords (words : List String) : Except UsageNotice Request := do
  let (progress, subcommand?) ← topLevel.read {} words
  match subcommand? with
  | none =>
      let given ← progress.close
      .error (if given.isEmpty then .nothingAsked else .missingCommand)
  | some (subcommand, further) =>
      let (task, inner) ← readTask subcommand further
      let outer ← progress.close
      let given : Given := inner ++ outer
      return {
        logLevel := (given.value? "log-level").getD "info"
        config := given.value? "config"
        task }

end ReportIndex.Command
