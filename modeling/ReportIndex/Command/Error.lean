import ReportIndex.Catalog.Load

/-!
Contract: why a task fails.

Owns:
- the errors, and the chain of causes that each is shown with.

Does not own: the errors of the command line.
-/

namespace ReportIndex.Command

inductive TaskError where
  /-- The settings that the user names are no file. -/
  | configNotFound (path : String)
  | catalog (path : String) (error : LoadError)
  | assetsNotFound (directory : String)
  /-- Several pages cannot go to the standard output. -/
  | siteNeedsDirectory
  | unusableVersion (version : String)
  | createDirectory (directory : String) (error : IoError)
  | writePage (path : String) (error : IoError)
deriving Repr

def TaskError.chain : TaskError → List String
  | .configNotFound path => ["config file not found: " ++ path]
  | .catalog path error => ("loading catalog " ++ path) :: error.chain
  | .assetsNotFound directory => ["asset directory not found: " ++ directory]
  | .siteNeedsDirectory => ["several versions are configured; --out must be a directory"]
  | .unusableVersion version => ["version '" ++ version ++ "' cannot be used as a directory name"]
  | .createDirectory directory error => ["creating " ++ directory, error.message]
  | .writePage path error => ["writing " ++ path, error.message]

def TaskError.message (error : TaskError) : String :=
  ": ".intercalate error.chain

end ReportIndex.Command
