import ReportIndex.Catalog.Document
import ReportIndex.Workspace.Basic

/-!
Contract: reading a catalog from a file.

Owns:
- the errors of loading, and the chain of causes that each is shown with.

Does not own: what a catalog document looks like.
-/

namespace ReportIndex

inductive LoadError where
  | unreadable (path : String) (error : IoError)
  | malformed (path : String) (fault : Catalog.DocumentFault)
  | blankHref (error : BlankHref)
deriving Repr

def LoadError.message : LoadError → String
  | .unreadable path error => "failed to read " ++ path ++ ": " ++ error.message
  | .malformed path fault => "failed to parse " ++ path ++ ": " ++ fault.message
  | .blankHref error => error.message

def LoadError.chain (error : LoadError) : List String :=
  match error with
  | .unreadable _ cause => [error.message, cause.message]
  | .malformed _ cause => [error.message, cause.message]
  | .blankHref _ => [error.message]

namespace Catalog

/-- The catalog of a text that was read from a file. -/
def ofFileText (path text : String) : Except LoadError Catalog :=
  match ofJson text with
  | .ok catalog => .ok catalog
  | .error (.document fault) => .error (.malformed path fault)
  | .error (.blankHref error) => .error (.blankHref error)

def load
    {m : Type → Type} [Monad m] [Workspace m]
    (path : String) :
    m (Except LoadError Catalog) := do
  match ← Workspace.readText path with
  | .error error => return .error (.unreadable path error)
  | .ok text =>
    match ofFileText path text with
    | .error error => return .error error
    | .ok catalog =>
      Workspace.record
        { level := .debug
          target := .catalog
          message := "loaded report catalog"
          fields := [("path", .plain path), ("reports", .count catalog.size)] }
      return .ok catalog

end Catalog

end ReportIndex
