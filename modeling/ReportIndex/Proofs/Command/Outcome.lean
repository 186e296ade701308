import ReportIndex.Command.Output
import ReportIndex.Proofs.Workspace.Effect

/-!
Contract: what writing pages does to a file system, as a function of it.

Owns:
- writing one page, and several in a row;
- the agreement of running these tasks with the functions: apart from the file
  system only the log changes.

Does not own: when the writing succeeds.
-/

namespace ReportIndex.Command

/-! ## Functions of the file system -/

/-- Creates the directory of a file, with those above it. -/
def parentOutcome (files : Files) (path : String) : Except TaskError Unit × Files :=
  let directory := (Path.parent? path).getD ""
  match files.ensureDirectories directory with
  | (.ok (), made) => (.ok (), made)
  | (.error error, made) => (.error (.createDirectory directory error), made)

/-- Writes a page to a file. -/
def pageOutcome (files : Files) (path html : String) : Except TaskError Unit × Files :=
  match parentOutcome files path with
  | (.error error, made) => (.error error, made)
  | (.ok (), made) =>
      match made.write path html.toUTF8 with
      | .error error => (.error (.writePage path error), made)
      | .ok written => (.ok (), written)

/-- Writes pages, each with its path, up to the first failure. -/
def pagesOutcome (files : Files) : List (String × String) → Except TaskError Unit × Files
  | [] => (.ok (), files)
  | (path, html) :: pages =>
      match pageOutcome files path html with
      | (.error error, made) => (.error error, made)
      | (.ok (), written) => pagesOutcome written pages

theorem pagesOutcome_cons (files : Files) (path html : String) (pages : List (String × String)) :
    pagesOutcome files ((path, html) :: pages) =
      match pageOutcome files path html with
      | (.error error, made) => (.error error, made)
      | (.ok (), written) => pagesOutcome written pages :=
  rfl

theorem pageOutcome_eq_ok (files written : Files) (path html : String) :
    pageOutcome files path html = (.ok (), written) ↔
      ∃ made, files.ensureDirectories ((Path.parent? path).getD "") = (.ok (), made)
        ∧ made.write path html.toUTF8 = .ok written := by
  rw [pageOutcome, parentOutcome]
  rcases files.ensureDirectories ((Path.parent? path).getD "") with ⟨error | ⟨⟨⟩⟩, made⟩
  · simp
  · dsimp only
    constructor
    · intro outcome
      refine ⟨made, rfl, ?_⟩
      split at outcome
      next => cases outcome
      next wrote =>
        cases outcome
        exact wrote
    · rintro ⟨_, ⟨⟩, wrote⟩
      rw [wrote]

/-! ## Running a task -/

section

variable {α β : Type} {action : TaskM Simulation α} {before after : Surroundings}

/-- A task goes on with the result of its first part. -/
theorem run_bind_ok
    {value : α}
    (first : action.run.run before = (.ok value, after))
    (next : α → TaskM Simulation β) :
    (action >>= next).run.run before = (next value).run.run after := by
  rw [ExceptT.run_bind, Simulation.run_bind_of first]

/-- A task ends with the error of its first part. -/
theorem run_bind_error
    {error : TaskError}
    (first : action.run.run before = (.error error, after))
    (next : α → TaskM Simulation β) :
    (action >>= next).run.run before = (.error error, after) := by
  rw [ExceptT.run_bind, Simulation.run_bind_of first]
  rfl

/-- An operation in a task cannot end it. -/
theorem run_lift
    {operation : Simulation α}
    {value : α}
    (answered : operation.run before = (value, after)) :
    (liftM operation : TaskM Simulation α).run.run before = (.ok value, after) := by
  have mapped : (liftM operation : TaskM Simulation α).run = Except.ok <$> operation := rfl
  rw [mapped, StateT.run_map, answered]
  rfl

end

/-! ## Agreement -/

theorem run_ensureParent (path : String) (surroundings : Surroundings) :
    (ensureParent path : TaskM Simulation Unit).run.run surroundings =
      Simulation.ended surroundings (parentOutcome surroundings.files path) := by
  rw [ensureParent, parentOutcome]
  split
  next found =>
    rw [found]
    rfl
  next found =>
    rw [found]
    rfl
  next directory nonempty found =>
    rw [found, run_bind_ok (run_lift (Simulation.run_ensureDirectories directory surroundings)),
      Option.getD_some]
    rcases surroundings.files.ensureDirectories directory with ⟨error | ⟨⟨⟩⟩, made⟩
    · rfl
    · rfl

theorem run_writeOutput
    {path : String}
    (notStandard : Path.isStandardOutput path = false)
    (html : String)
    (surroundings : Surroundings) :
    ∃ after,
      (writeOutput path html : TaskM Simulation Unit).run.run surroundings =
          ((pageOutcome surroundings.files path html).1, after)
        ∧ surroundings.Becomes (pageOutcome surroundings.files path html).2 "" after := by
  have above := run_ensureParent path surroundings
  rw [writeOutput, if_neg (by simp [notStandard]), pageOutcome]
  generalize parentOutcome surroundings.files path = outcome at above
  rcases outcome with ⟨error | ⟨⟨⟩⟩, made⟩
  · rw [run_bind_error above]
    exact ⟨_, rfl, .silent _ _ _⟩
  · rw [run_bind_ok above]
    have written := Simulation.run_writeBytes path html.toUTF8 { surroundings with files := made }
    cases outcome : made.write path html.toUTF8 with
    | error error =>
        rw [outcome] at written
        rw [run_bind_ok (run_lift written)]
        simp only [outcome]
        exact ⟨_, rfl, .silent _ _ _⟩
    | ok files =>
        rw [outcome] at written
        rw [run_bind_ok (run_lift written)]
        simp only [outcome]
        exact ⟨_, rfl, .silent _ _ _⟩

theorem run_writeOutput_standard
    {path : String}
    (standard : Path.isStandardOutput path = true)
    (html : String)
    (surroundings : Surroundings) :
    ∃ after,
      (writeOutput path html : TaskM Simulation Unit).run.run surroundings = (.ok (), after)
        ∧ surroundings.Becomes surroundings.files (html ++ "\n") after := by
  rw [writeOutput, if_pos standard]
  exact ⟨_, rfl, rfl, rfl, rfl⟩

end ReportIndex.Command
