import ReportIndex.Command.Run
import ReportIndex.Command.Usage
import ReportIndex.Log.Filter

/-!
Contract: the program on a real file system.

Owns:
- the operations of a workspace on real files and streams;
- the start of the program, and its exit status.

Does not own: anything that could be decided without a file or a stream.

Events and errors go to the standard error output, so that the standard output
holds markup only.
-/

namespace ReportIndex

/-- A computation on the real file system, with the filter for its events. -/
abbrev Shell := ReaderT Log.Filter IO

namespace Shell

/-- The number of a system error. Some operations give it with the sign turned,
which shows as a number of at least `2 ^ 31`. -/
def numberOf (code : UInt32) : Nat :=
  if code.toNat < Nat.pow 2 31 then code.toNat else Nat.pow 2 32 - code.toNat

/-- The number that the system gives an error, and its words. -/
def reasonOf : IO.Error → Nat × String
  | .alreadyExists _ code details
  | .noFileOrDirectory _ code details
  | .interrupted _ code details
  | .invalidArgument _ code details
  | .permissionDenied _ code details
  | .resourceExhausted _ code details
  | .inappropriateType _ code details
  | .noSuchThing _ code details
  | .otherError code details
  | .resourceBusy code details
  | .resourceVanished code details
  | .unsupportedOperation code details
  | .hardwareFault code details
  | .unsatisfiedConstraints code details
  | .illegalOperation code details
  | .protocolError code details
  | .timeExpired code details => (numberOf code, details)
  | .unexpectedEof => (0, "unexpected end of file")
  | .userError details => (0, details)

/-- The error of a workspace that a system error stands for. -/
def errorOf (error : IO.Error) : IoError :=
  match reasonOf error with
  | (2, _) => .notFound
  | (17, _) => .alreadyExists
  | (20, _) => .notDirectory
  | (21, _) => .isDirectory
  | (36, _) => .nameTooLong
  | (code, details) => .other details code

/-- The outcome of an operation on a path, as a value. No system is asked about
a path that holds the character NUL. -/
def attempt {α : Type} (path : String) (operation : String → IO α) :
    Shell (Except IoError α) := do
  if path.toList.contains '\x00' then return .error .nulInPath
  match ← (operation path).toBaseIO with
  | .ok value => return .ok value
  | .error error => return .error (errorOf error)

instance : Workspace Shell where
  workingDirectory := do
    return (← IO.currentDir).toString
  kind? path := do
    match ← (IO.FS.realPath path).toBaseIO with
    | .error _ => return none
    | .ok found => return some (if ← found.isDir then .directory else .file)
  readBytes path := attempt path fun name => IO.FS.readBinFile name
  createDirectory path := attempt path fun name => IO.FS.createDir name
  writeBytes path content := attempt path fun name => IO.FS.writeBinFile name content
  record event := do
    if (← read).shows event then IO.eprintln event.line
  print text := IO.print text
  complain text := IO.eprint text

end Shell

/-- Answers a command line that no task stands behind. -/
def answerNotice (notice : Command.UsageNotice) : IO UInt32 := do
  match notice with
  | .helpRequested => IO.print Command.helpText
  | .versionRequested => IO.print Command.versionText
  | _ => IO.eprint ("error: " ++ notice.message ++ "\n\n" ++ Command.helpText)
  return notice.exitStatus.toUInt32

end ReportIndex

open ReportIndex in
/-- Reads the command line, and carries out what it asks for. -/
def main (words : List String) : IO UInt32 := do
  match Command.Request.ofWords words with
  | .error notice => answerNotice notice
  | .ok request =>
    match Log.Filter.choose? (← IO.getEnv "RUST_LOG") request.logLevel with
    | none =>
      IO.eprintln "error: the log filter is cut inside of a character"
      return Command.brokenStatus.toUInt32
    | some filter =>
      let status ← (Command.perform request : Shell Nat).run filter
      return status.toUInt32
