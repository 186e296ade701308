import ReportIndex.Workspace.Basic

/-!
Contract: a file system as a value.

Owns:
- files and directories by location, and the working directory;
- walking a path, with the error for every way in which that can fail;
- reading, creating, writing and removing.

Does not own: who uses it.

There are no links and no permissions: an operation fails only because of what
is, or is not, at the places that its path names.
-/

namespace ReportIndex

/-- The names on the way from the root to a place. -/
abbrev Location := List String

inductive Entry where
  | file (content : ByteArray)
  | directory

instance : DecidableEq Entry
  | .file content, .file other =>
      match ByteArray.instDecidableEq content other with
      | .isTrue same => .isTrue (congrArg Entry.file same)
      | .isFalse different => .isFalse fun same => different (Entry.file.inj same)
  | .file _, .directory => .isFalse nofun
  | .directory, .file _ => .isFalse nofun
  | .directory, .directory => .isTrue rfl

def Entry.kind : Entry → EntryKind
  | .file _ => .file
  | .directory => .directory

/-- Everything that is at some location, and where relative paths begin. -/
structure Files where
  entries : List (Location × Entry)
  workingDirectory : Location

namespace Files

/-- What is at a location. The root is always a directory. -/
def entry? (files : Files) (location : Location) : Option Entry :=
  if location.isEmpty then some .directory else files.entries.lookup location

/-- `files` with `entry` at a location, in place of what was there. -/
def put (files : Files) (location : Location) (entry : Entry) : Files :=
  { files with entries := (location, entry) :: files.entries.filter (·.1 != location) }

/-- `files` without what is at a location and below it. -/
def remove (files : Files) (location : Location) : Files :=
  { files with entries := files.entries.filter fun entry => !location.isPrefixOf entry.1 }

/-- An empty file system but for the working directory and those above it. -/
def startingAt (workingDirectory : Location) : Files :=
  { entries := (List.range workingDirectory.length).map fun above =>
      (workingDirectory.take (above + 1), .directory)
    workingDirectory }

/-- The longest name that a directory can hold, in bytes. -/
def longestName : Nat := 255

/-- The longest path that can be asked for, in bytes. -/
def longestPath : Nat := 4095

/-- The place that the parts of a path lead to. Every part but the last must
lead to a directory; whether something is at the last one is not asked. -/
def walk (files : Files) : Location → List String → Except IoError Location
  | location, [] => .ok location
  | location, part :: parts =>
      match files.entry? location with
      | none => .error .notFound
      | some (.file _) => .error .notDirectory
      | some .directory =>
          if part = "." then walk files location parts
          else if part = ".." then walk files location.dropLast parts
          else if longestName < part.utf8ByteSize then .error .nameTooLong
          else walk files (location ++ [part]) parts

/-- Where the walk along a path begins, with the faults that lie in its text. -/
def origin (files : Files) (path : String) : Except IoError Location :=
  if path.toList.contains '\x00' then .error .nulInPath
  else if path.isEmpty then .error .notFound
  else if longestPath < path.utf8ByteSize then .error .nameTooLong
  else .ok (if Path.isAbsolute path then [] else files.workingDirectory)

def locate (files : Files) (path : String) : Except IoError Location := do
  files.walk (← files.origin path) (Path.parts path)

/-- The place of the directory that a path's last part is looked for in. -/
def locateParent (files : Files) (path : String) : Except IoError Location := do
  files.walk (← files.origin path) ((Path.parts path).dropLast ++ ["."])

/-- What is at a path. A path that ends in a slash leads to directories only. -/
def find (files : Files) (path : String) : Except IoError (Location × Entry) := do
  let location ← files.locate path
  match files.entry? location with
  | none => .error .notFound
  | some .directory => return (location, .directory)
  | some entry => if Path.endsInSlash path then .error .notDirectory else return (location, entry)

def read (files : Files) (path : String) : Except IoError ByteArray := do
  match ← files.find path with
  | (_, .directory) => .error .isDirectory
  | (_, .file content) => return content

/-- `files` with a new directory at a path. -/
def createDirectory (files : Files) (path : String) : Except IoError Files := do
  let location ← files.locate path
  match files.entry? location with
  | some _ => .error .alreadyExists
  | none => return files.put location .directory

/-- `files` with a file at a path that holds exactly these bytes. No file can be
written at a path that ends in a slash, whatever is there. -/
def write (files : Files) (path : String) (content : ByteArray) : Except IoError Files := do
  let _ ← files.locateParent path
  if Path.endsInSlash path then .error .isDirectory
  else
    let location ← files.locate path
    match files.entry? location with
    | some .directory => .error .isDirectory
    | _ => return files.put location (.file content)

/-- Every file with its location, in no particular order. -/
def contents (files : Files) : List (Location × ByteArray) :=
  files.entries.filterMap fun entry =>
    match entry.2 with
    | .file content => some (entry.1, content)
    | .directory => none

end Files

end ReportIndex
