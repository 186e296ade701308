import ReportIndex.Command.Error
import ReportIndex.Page.Document

/-!
Contract: where rendered pages go.

Owns:
- rendering a page or a grid, with the event for it;
- writing a page to a file or to the standard output;
- the rule which versions can be names of directories.

Does not own: which pages are rendered.
-/

namespace ReportIndex.Command

variable {m : Type → Type} [Monad m] [Workspace m]

/-- What a rendering reports: how many reports, and for which version. -/
def renderingFields (catalog : Catalog) (context : Context) :
    List (String × Log.FieldValue) :=
  [ ("reports", .count catalog.size),
    ("version", .text (context.activeVersion.getD "-")) ]

def pageEvent (catalog : Catalog) (context : Context) : Log.Event :=
  { level := .debug
    target := .page
    message := "rendering reports page"
    fields := renderingFields catalog context ++ [("theme", .plain context.theme.name)] }

def gridEvent (catalog : Catalog) (context : Context) : Log.Event :=
  { level := .debug
    target := .page
    message := "rendering reports grid"
    fields := renderingFields catalog context }

/-- The markup of a page, or of the grid alone if only a fragment is wanted. -/
def markup (fragment : Bool) (catalog : Catalog) (context : Context) : String :=
  if fragment then Page.grid catalog context else Page.page catalog context

/-- Renders a page or the grid alone, and reports it. -/
def renderMarkup (fragment : Bool) (catalog : Catalog) (context : Context) : m String := do
  Workspace.record (if fragment then gridEvent catalog context else pageEvent catalog context)
  return markup fragment catalog context

/-- A step that may fail with a task's error. -/
abbrev TaskM (m : Type → Type) := ExceptT TaskError m

def ensureParent (path : String) : TaskM m Unit := do
  match Path.parent? path with
  | none => return
  | some "" => return
  | some directory =>
    match ← (Workspace.ensureDirectories directory : m _) with
    | .ok () => return
    | .error error => throw (.createDirectory directory error)

/-- Writes a page to its file, or to the standard output with a line break
behind it. -/
def writeOutput (path html : String) : TaskM m Unit := do
  if Path.isStandardOutput path then
    (Workspace.print (html ++ "\n") : m Unit)
  else
    ensureParent path
    match ← (Workspace.writeBytes path html.toUTF8 : m _) with
    | .error error => throw (.writePage path error)
    | .ok () =>
      (Workspace.record
        { level := .debug
          target := .render
          message := "page size"
          fields := [("bytes", .count html.utf8ByteSize)] } : m Unit)
      (Workspace.record
        { level := .info, target := .render, message := "Wrote " ++ path } : m Unit)

/-- The directory of a version's page: the version without blanks at its ends,
which must be a single name inside the site's directory. -/
def versionDirectory (version : String) : Except TaskError String :=
  let name := Text.trim version
  if name.isEmpty || name == "." || name == ".."
      || name.toList.contains '/' || name.toList.contains '\\' then
    .error (.unusableVersion version)
  else .ok name

end ReportIndex.Command
