import ReportIndex.Command.Check
import ReportIndex.Command.List

/-!
Contract: carrying out a request.

Owns:
- where settings come from: the file that the user names, which must be there,
  or the one in the working directory, which need not;
- the event with which the program starts, the status of one that cannot start,
  and how an error is shown.

Does not own: the tasks.
-/

namespace ReportIndex.Command

variable {m : Type → Type} [Monad m] [Workspace m]

def programVersion : String := "0.1.0"

/-- The event with which the program starts. -/
def startEvent : Log.Event :=
  { level := .debug
    target := .program
    message := "Starting reports-gen v" ++ programVersion }

/-- The exit status of a program that cannot start for want of a filter. -/
def brokenStatus : Nat := 101

def loadConfig (path? : Option String) : TaskM m Config := do
  match path? with
  | some path =>
    if ← (Workspace.isFile path : m Bool) then
      (Config.load path : m Config)
    else throw (.configNotFound path)
  | none =>
    let directory ← (Workspace.workingDirectory : m String)
    (Config.load (Path.join directory Config.fileName) : m Config)

/-- Carries out a request, and gives the exit status. -/
def run (request : Request) : TaskM m Nat := do
  let config ← loadConfig request.config
  match request.task with
  | .render arguments => render arguments config
  | .check arguments => check arguments
  | .list arguments => list arguments config

def errorLine (error : TaskError) : String :=
  "[reports-gen] Error: " ++ error.message

/-- Carries out a request from start to end: an error is shown and gives the
exit status one. -/
def perform (request : Request) : m Nat := do
  Workspace.record startEvent
  match ← (run request).run with
  | .ok status => return status
  | .error error =>
    Workspace.complain (errorLine error ++ "\n")
    return 1

def versionText : String := "reports-gen " ++ programVersion ++ "\n"

end ReportIndex.Command
