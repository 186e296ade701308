import ReportIndex.Config.Document
import ReportIndex.Context
import ReportIndex.Workspace.Basic

/-!
Contract: reading settings from a file.

Owns:
- the name of the file that is looked for;
- the rule that settings never fail: without a file, or with one that cannot be
  read or used, all of them have their defaults.

Does not own: what a document of settings looks like.
-/

namespace ReportIndex.Config

variable {m : Type → Type} [Monad m] [Workspace m]

/-- The file that is looked for in the working directory. -/
def fileName : String := "reports.toml"

def load (path : String) : m Config := do
  if !(← Workspace.exists? path) then
    Workspace.record
      { level := .debug
        target := .config
        message := "no config file, using defaults"
        fields := [("path", .plain path)] }
    return {}
  match ← Workspace.readText path with
  | .error error =>
    Workspace.record
      { level := .warn
        target := .config
        message := "Failed to read " ++ path ++ ": " ++ error.message }
    return {}
  | .ok document =>
    match ofToml document with
    | .ok config => return config
    | .error fault =>
      Workspace.record
        { level := .warn
          target := .config
          message := "Failed to parse " ++ path ++ ": " ++ fault.message }
      return {}

/-- The link strategy of the settings; the log says so if their parameter cannot
be used. -/
def announceLinkStrategy (config : Config) : m LinkStrategy := do
  if config.hasBlankParameter then
    Workspace.record
      { level := .warn
        target := .config
        message := "[link] param is blank, using '" ++ LinkStrategy.defaultParameter ++ "'" }
  return config.linkStrategy

def announceContext (config : Config) : m Context := do
  let _ ← announceLinkStrategy config
  return Context.ofConfig config

end ReportIndex.Config
