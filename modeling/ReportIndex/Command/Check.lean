import ReportIndex.Command.Render

/-!
Contract: the task that looks for the illustrations of a catalog.

Owns:
- the illustrations that are not there, in the order of the cards;
- the report on them, and the exit status.

Does not own: the names of the files.
-/

namespace ReportIndex.Command

variable {m : Type → Type} [Monad m] [Workspace m]

def missingFiles : List String → m (List String)
  | [] => return []
  | path :: paths => do
      let found ← Workspace.isFile path
      let missing ← missingFiles paths
      return if found then missing else path :: missing

/-- The illustrations of a catalog of `count` reports that are not in a
directory. -/
def missingIllustrations (directory : String) (count : Nat) : m (List String) :=
  missingFiles ((illustrationNames count).map fun name => Path.join directory name)

/-- Looks for every illustration, and names those that are missing. -/
def check (arguments : CheckArguments) : TaskM m Nat := do
  let catalog ← loadCatalog arguments.catalog
  if !(← (Workspace.isDirectory arguments.assets : m Bool)) then
    throw (.assetsNotFound arguments.assets)
  let wanted := catalog.size * 2
  let missing ← (missingIllustrations arguments.assets catalog.size : m _)
  if missing.isEmpty then
    (Workspace.record
      { level := .info
        target := .check
        message := "all illustrations present"
        fields := [("reports", .count catalog.size), ("dir", .plain arguments.assets)] } : m Unit)
    (Workspace.print
      ("ok: " ++ toString catalog.size ++ " reports, " ++ toString wanted ++ " illustrations\n")
      : m Unit)
    return 0
  else
    (Workspace.print (String.join (missing.map fun path => "missing: " ++ path ++ "\n")) : m Unit)
    (Workspace.complain
      ("[reports-gen] " ++ toString missing.length ++ " of " ++ toString wanted
        ++ " illustrations missing\n") : m Unit)
    return 1

end ReportIndex.Command
