/-!
Contract: paths as texts.

Owns:
- the parts of a path between its slashes;
- joining a name to a directory, and the directory that a path is in;
- the path `-`, which stands for the standard output.

Does not own: what is found at a path.

A path is shown as the user wrote it; only comparing and walking look through
its slashes and dots.
-/

namespace ReportIndex.Path

def join (directory name : String) : String :=
  match directory.toList.getLast? with
  | none => name
  | some '/' => directory ++ name
  | some _ => directory ++ "/" ++ name

/-- The parts between the slashes, empty ones left out. -/
def parts (path : String) : List String :=
  ((path.toList.splitOn '/').filter (!·.isEmpty)).map String.ofList

def isAbsolute (path : String) : Bool :=
  ['/'].isPrefixOf path.toList

/-- Whether the path ends in a slash, which only a directory's path can. -/
def endsInSlash (path : String) : Bool :=
  path.toList.getLast? == some '/'

/-- A path, last character first, without the slashes and single dots at its
end; the slash of the root and a dot that begins the path stay. -/
def dropTail : List Char → List Char
  | ['/'] => ['/']
  | '/' :: rest => dropTail rest
  | '.' :: '/' :: rest => dropTail ('/' :: rest)
  | reversed => reversed
termination_by reversed => reversed.length

/-- The path of the directory that holds what is at `path`: empty for a single
name, none for the root and for the empty path. -/
def parent? (path : String) : Option String :=
  match dropTail path.toList.reverse with
  | [] => none
  | ['/'] => none
  | reversed =>
      match reversed.dropWhile (· != '/') with
      | [] => some ""
      | directory => some (String.ofList (dropTail directory).reverse)

/-- Whether the path is `-`, apart from slashes and single dots at its end. -/
def isStandardOutput (path : String) : Bool :=
  match path.toList.splitOn '/' with
  | first :: rest => first == ['-'] && rest.all fun part => part.isEmpty || part == ['.']
  | [] => false

end ReportIndex.Path
