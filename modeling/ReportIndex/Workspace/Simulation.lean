import ReportIndex.Workspace.Files

/-!
Contract: running a command on surroundings that are a value.

Owns:
- the surroundings: a file system, the log, and what has been written to the
  two output streams;
- the operations of a workspace on them.

Does not own: the commands.
-/

namespace ReportIndex

/-- The surroundings of a command: a file system, and what has been logged and
written so far. -/
structure Surroundings where
  files : Files
  log : List Log.Event := []
  output : String := ""
  complaints : String := ""

/-- A computation on surroundings that are a value. -/
abbrev Simulation := StateM Surroundings

namespace Simulation

/-- Changes the file system, or says why that is not possible. -/
def change (operation : Files → Except IoError Files) : Simulation (Except IoError Unit) :=
  fun surroundings =>
    match operation surroundings.files with
    | .ok files => (.ok (), { surroundings with files })
    | .error error => (.error error, surroundings)

instance : Workspace Simulation where
  workingDirectory := do
    return "/" ++ "/".intercalate (← get).files.workingDirectory
  kind? path := do
    return ((← get).files.find path).toOption.map fun found => found.2.kind
  readBytes path := do
    return (← get).files.read path
  createDirectory path := change fun files => files.createDirectory path
  writeBytes path content := change fun files => files.write path content
  record event := modify fun surroundings =>
    { surroundings with log := surroundings.log ++ [event] }
  print text := modify fun surroundings =>
    { surroundings with output := surroundings.output ++ text }
  complain text := modify fun surroundings =>
    { surroundings with complaints := surroundings.complaints ++ text }

end Simulation

end ReportIndex
