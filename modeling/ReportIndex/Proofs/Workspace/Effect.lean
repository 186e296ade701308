import ReportIndex.Workspace.Simulation

/-!
Contract: what operations do to a file system that is a value.

Owns:
- creating a directory with those above it, as a function of the file system;
- what surroundings have become, the log apart;
- the agreement of running the operation with this function: nothing but the
  file system is looked at or changed.

Does not own: when an operation succeeds.
-/

namespace ReportIndex

/-- The later surroundings have these files, and this text has been written to
the output since the earlier ones. Of the log nothing is said. -/
structure Surroundings.Becomes
    (earlier : Surroundings)
    (files : Files)
    (printed : String)
    (later : Surroundings) : Prop where
  files : later.files = files
  output : later.output = earlier.output ++ printed
  complaints : later.complaints = earlier.complaints

namespace Surroundings.Becomes

variable {earlier later latest : Surroundings} {files more : Files} {printed further : String}

/-- New files and a new log print nothing. -/
theorem silent (surroundings : Surroundings) (files : Files) (log : List Log.Event) :
    surroundings.Becomes files "" { surroundings with files, log } :=
  ⟨rfl, String.append_empty.symm, rfl⟩

theorem trans
    (first : earlier.Becomes files printed later)
    (second : later.Becomes more further latest) :
    earlier.Becomes more (printed ++ further) latest where
  files := second.files
  output := by rw [second.output, first.output, String.append_assoc]
  complaints := second.complaints.trans first.complaints

/-- The same for a second part that prints nothing. -/
theorem trans_silent
    (first : earlier.Becomes files printed later)
    (second : later.Becomes more "" latest) :
    earlier.Becomes more printed latest := by
  have both := first.trans second
  rwa [String.append_empty] at both

end Surroundings.Becomes

namespace Files

/-- What kind of entry is at a path, if any is. -/
def kind? (files : Files) (path : String) : Option EntryKind :=
  (files.find path).toOption.map (·.2.kind)

def isDirectory (files : Files) (path : String) : Bool :=
  files.kind? path == some .directory

/-- Whether a directory is at a path in the end, and the file system then. -/
def ensureDirectory (files : Files) (path : String) : Except IoError Unit × Files :=
  match files.createDirectory path with
  | .ok made => (.ok (), made)
  | .error error => if files.isDirectory path then (.ok (), files) else (.error error, files)

/-- The same for the directories above it too, `steps` levels up at most. -/
def ensureDirectoriesUpTo : Nat → Files → String → Except IoError Unit × Files
  | 0, files, path => files.ensureDirectory path
  | steps + 1, files, path =>
      if path.isEmpty then (.ok (), files)
      else
        match files.createDirectory path with
        | .ok made => (.ok (), made)
        | .error .notFound =>
            match Path.parent? path with
            | none => (.error .notFound, files)
            | some parent =>
                match ensureDirectoriesUpTo steps files parent with
                | (.error error, made) => (.error error, made)
                | (.ok (), made) => made.ensureDirectory path
        | .error error => if files.isDirectory path then (.ok (), files) else (.error error, files)

def ensureDirectories (files : Files) (path : String) : Except IoError Unit × Files :=
  ensureDirectoriesUpTo (path.length + 1) files path

theorem ensureDirectories_empty (files : Files) :
    files.ensureDirectories "" = (.ok (), files) :=
  rfl

end Files

namespace Simulation

/-- An outcome on files, as one on surroundings. -/
def ended {α : Type} (surroundings : Surroundings) (outcome : α × Files) : α × Surroundings :=
  (outcome.1, { surroundings with files := outcome.2 })

/-- A computation goes on with the answer of its first operation. -/
theorem run_bind_of
    {α β : Type}
    {operation : Simulation α}
    {before after : Surroundings}
    {answer : α}
    (first : operation.run before = (answer, after))
    (next : α → Simulation β) :
    (operation >>= next).run before = (next answer).run after := by
  rw [StateT.run_bind, first]
  rfl

theorem run_createDirectory (path : String) (surroundings : Surroundings) :
    (Workspace.createDirectory path : Simulation _).run surroundings =
      match surroundings.files.createDirectory path with
      | .ok files => (.ok (), { surroundings with files })
      | .error error => (.error error, surroundings) :=
  rfl

theorem run_isDirectory (path : String) (surroundings : Surroundings) :
    (Workspace.isDirectory path : Simulation _).run surroundings =
      (surroundings.files.isDirectory path, surroundings) :=
  rfl

theorem run_writeBytes (path : String) (content : ByteArray) (surroundings : Surroundings) :
    (Workspace.writeBytes path content : Simulation _).run surroundings =
      match surroundings.files.write path content with
      | .ok files => (.ok (), { surroundings with files })
      | .error error => (.error error, surroundings) :=
  rfl

theorem run_ensureDirectory (path : String) (surroundings : Surroundings) :
    (Workspace.ensureDirectory path : Simulation _).run surroundings =
      ended surroundings (surroundings.files.ensureDirectory path) := by
  have created := run_createDirectory path surroundings
  rw [Workspace.ensureDirectory, Files.ensureDirectory]
  cases outcome : surroundings.files.createDirectory path with
  | ok made =>
      rw [outcome] at created
      rw [run_bind_of created]
      rfl
  | error error =>
      rw [outcome] at created
      rw [run_bind_of created, run_bind_of (run_isDirectory path surroundings)]
      cases surroundings.files.isDirectory path <;> rfl

theorem run_ensureDirectoriesUpTo
    (steps : Nat)
    (path : String)
    (surroundings : Surroundings) :
    (Workspace.ensureDirectoriesUpTo steps path : Simulation _).run surroundings =
      ended surroundings (surroundings.files.ensureDirectoriesUpTo steps path) := by
  induction steps generalizing path surroundings with
  | zero => exact run_ensureDirectory path surroundings
  | succ steps inductionHypothesis =>
      rw [Workspace.ensureDirectoriesUpTo, Files.ensureDirectoriesUpTo]
      split
      · rfl
      have created := run_createDirectory path surroundings
      cases outcome : surroundings.files.createDirectory path with
      | ok made =>
          rw [outcome] at created
          rw [run_bind_of created]
          rfl
      | error error =>
          rw [outcome] at created
          rw [run_bind_of created]
          cases error with
          | notFound =>
              cases Path.parent? path with
              | none => rfl
              | some parent =>
                  have above := inductionHypothesis parent surroundings
                  dsimp only
                  rw [run_bind_of above]
                  rcases surroundings.files.ensureDirectoriesUpTo steps parent with
                    ⟨error | ⟨⟨⟩⟩, made⟩
                  · rfl
                  · exact run_ensureDirectory path _
          | _ =>
              rw [run_bind_of (run_isDirectory path surroundings)]
              cases surroundings.files.isDirectory path <;> rfl

theorem run_ensureDirectories (path : String) (surroundings : Surroundings) :
    (Workspace.ensureDirectories path : Simulation _).run surroundings =
      ended surroundings (surroundings.files.ensureDirectories path) :=
  run_ensureDirectoriesUpTo (path.length + 1) path surroundings

end Simulation

end ReportIndex
