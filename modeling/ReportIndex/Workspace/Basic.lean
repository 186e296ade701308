import ReportIndex.Log.Event
import ReportIndex.Workspace.Path

/-!
Contract: what the commands need from their surroundings.

Owns:
- the operations on files, the log and the two output streams, as a class of
  monads, so that a command can be run on a real file system and on one that
  is a value;
- the errors of file operations, with their words;
- creating a directory together with those above it.

Does not own: an implementation of the operations.
-/

namespace ReportIndex

inductive IoError where
  | notFound
  | alreadyExists
  | notDirectory
  | isDirectory
  | nameTooLong
  /-- A path holds the character NUL. -/
  | nulInPath
  /-- A file that is to be read as text is not UTF-8. -/
  | notUtf8
  /-- Any other reason, with the system's words and number for it. -/
  | other (reason : String) (code : Nat)
deriving DecidableEq, Repr

private def numbered (reason : String) (code : Nat) : String :=
  reason ++ " (os error " ++ toString code ++ ")"

def IoError.message : IoError → String
  | .notFound => numbered "No such file or directory" 2
  | .alreadyExists => numbered "File exists" 17
  | .notDirectory => numbered "Not a directory" 20
  | .isDirectory => numbered "Is a directory" 21
  | .nameTooLong => numbered "File name too long" 36
  | .nulInPath => "file name contained an unexpected NUL byte"
  | .notUtf8 => "stream did not contain valid UTF-8"
  | .other reason code => numbered reason code

inductive EntryKind where
  | file
  | directory
deriving DecidableEq, Repr

/-- The operations that the commands use. -/
class Workspace (m : Type → Type) where
  /-- The absolute path of the working directory. -/
  workingDirectory : m String
  kind? : String → m (Option EntryKind)
  readBytes : String → m (Except IoError ByteArray)
  /-- Creates one directory. -/
  createDirectory : String → m (Except IoError Unit)
  /-- Makes the file at a path hold exactly these bytes. -/
  writeBytes : String → ByteArray → m (Except IoError Unit)
  /-- Adds an event to the log. -/
  record : Log.Event → m Unit
  /-- Writes to the standard output. -/
  print : String → m Unit
  /-- Writes to the standard error output. -/
  complain : String → m Unit

namespace Workspace

variable {m : Type → Type} [Monad m] [Workspace m]

def exists? (path : String) : m Bool := do
  return (← kind? path).isSome

def isFile (path : String) : m Bool := do
  return (← kind? path) == some .file

def isDirectory (path : String) : m Bool := do
  return (← kind? path) == some .directory

/-- The text of a file, which must be UTF-8. -/
def readText (path : String) : m (Except IoError String) := do
  match ← readBytes path with
  | .error error => return .error error
  | .ok bytes =>
    match String.fromUTF8? bytes with
    | some text => return .ok text
    | none => return .error .notUtf8

/-- Creates a directory; it is no error if it is there already. -/
def ensureDirectory (path : String) : m (Except IoError Unit) := do
  match ← createDirectory path with
  | .ok () => return .ok ()
  | .error error =>
    if ← isDirectory path then return .ok () else return .error error

/-- Creates a directory and those above it, `steps` levels up at most.

The ones above are looked at only when one of them is not there. -/
def ensureDirectoriesUpTo : Nat → String → m (Except IoError Unit)
  | 0, path => ensureDirectory path
  | steps + 1, path => do
    if path.isEmpty then return .ok ()
    match ← createDirectory path with
    | .ok () => return .ok ()
    | .error .notFound =>
      match Path.parent? path with
      | none => return .error .notFound
      | some parent =>
        match ← ensureDirectoriesUpTo steps parent with
        | .error error => return .error error
        | .ok () => ensureDirectory path
    | .error error =>
      if ← isDirectory path then return .ok () else return .error error

/-- Creates a directory and those above it. A path has no more levels than
characters, and the empty path needs no directory. -/
def ensureDirectories (path : String) : m (Except IoError Unit) :=
  ensureDirectoriesUpTo (path.length + 1) path

end Workspace

end ReportIndex
