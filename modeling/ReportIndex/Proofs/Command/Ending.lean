import ReportIndex.Command.Run
import ReportIndex.Proofs.Command.Outcome

/-!
Contract: how a task ends, as a function of the file system.

Owns:
- endings: a value or an error, the file system then, and what has been written
  to the two outputs;
- the ending of a task that is put together from others.

Does not own: the endings of particular tasks.
-/

namespace ReportIndex.Command

/-- How a task ends. Of the log nothing is said. -/
structure Ending (α : Type) where
  result : Except TaskError α
  files : Files
  printed : String := ""
  complained : String := ""

namespace Ending

variable {α β : Type}

/-- The ending of a task that only reads. -/
def reading (result : Except TaskError α) (files : Files) : Ending α :=
  { result, files }

/-- The ending of a task that only changes files. -/
def writing (outcome : Except TaskError α × Files) : Ending α :=
  { result := outcome.1, files := outcome.2 }

/-- The ending of a task that goes on with the value of a first one. -/
def andThen (first : Ending α) (next : α → Files → Ending β) : Ending β :=
  match first.result with
  | .error error =>
      { result := .error error
        files := first.files
        printed := first.printed
        complained := first.complained }
  | .ok value =>
      let second := next value first.files
      { second with
        printed := first.printed ++ second.printed
        complained := first.complained ++ second.complained }

@[simp]
theorem andThen_reading_ok (value : α) (files : Files) (next : α → Files → Ending β) :
    (reading (.ok value) files).andThen next = next value files := by
  simp [andThen, reading]

@[simp]
theorem andThen_reading_error (error : TaskError) (files : Files) (next : α → Files → Ending β) :
    (reading (.error error) files).andThen next = reading (.error error) files :=
  rfl

/-- The exit status of a request that ends like this. -/
def status (ending : Ending Nat) : Nat :=
  match ending.result with
  | .ok status => status
  | .error _ => 1

/-- The ending with its error shown. -/
def shown (ending : Ending α) : Ending α :=
  match ending.result with
  | .ok _ => ending
  | .error error => { ending with complained := ending.complained ++ (errorLine error ++ "\n") }

/-- The surroundings are left so by a task that began in others and ended like
this. -/
structure Leaves (ending : Ending α) (start final : Surroundings) : Prop where
  files : final.files = ending.files
  output : final.output = start.output ++ ending.printed
  complaints : final.complaints = start.complaints ++ ending.complained

theorem leaves_of_becomes
    {ending : Ending α}
    {start final : Surroundings}
    (becomes : start.Becomes ending.files ending.printed final)
    (quiet : ending.complained = "") :
    ending.Leaves start final :=
  ⟨becomes.files, becomes.output, by rw [becomes.complaints, quiet, String.append_empty]⟩

end Ending

/-- Wherever the task is run, it ends like this, by the files that it finds. -/
def EndsAs {α : Type} (task : TaskM Simulation α) (ending : Files → Ending α) : Prop :=
  ∀ start, ∃ final,
    task.run.run start = ((ending start.files).result, final)
      ∧ (ending start.files).Leaves start final

namespace EndsAs

variable {α β : Type}

/-- A task is followed by the next one with its value. -/
theorem bind
    {task : TaskM Simulation α}
    {ending : Files → Ending α}
    {next : α → TaskM Simulation β}
    {nextEnding : α → Files → Ending β}
    (first : EndsAs task ending)
    (second : ∀ value, EndsAs (next value) (nextEnding value)) :
    EndsAs (task >>= next) (fun files => (ending files).andThen nextEnding) := by
  intro start
  obtain ⟨middle, ran, leaves⟩ := first start
  dsimp only
  rw [Ending.andThen]
  cases result : (ending start.files).result with
  | error error =>
      rw [result] at ran
      exact ⟨middle, run_bind_error ran next, leaves.files, leaves.output, leaves.complaints⟩
  | ok value =>
      rw [result] at ran
      obtain ⟨final, ranNext, leavesNext⟩ := second value middle
      rw [leaves.files] at ranNext leavesNext
      refine ⟨final, (run_bind_ok ran next).trans ranNext, leavesNext.files, ?_, ?_⟩
      · rw [leavesNext.output, leaves.output, String.append_assoc]
      · rw [leavesNext.complaints, leaves.complaints, String.append_assoc]

theorem of_becomes
    {task : TaskM Simulation α}
    {ending : Files → Ending α}
    (quiet : ∀ files, (ending files).complained = "")
    (runs : ∀ start, ∃ final,
      task.run.run start = ((ending start.files).result, final)
        ∧ start.Becomes (ending start.files).files (ending start.files).printed final) :
    EndsAs task ending := by
  intro start
  obtain ⟨final, ran, becomes⟩ := runs start
  exact ⟨final, ran, Ending.leaves_of_becomes becomes (quiet start.files)⟩

/-- An operation with a fixed answer that changes no file is not seen. -/
theorem bind_answer
    {operation : Simulation α}
    {answer : α}
    {next : α → TaskM Simulation β}
    {ending : Files → Ending β}
    (runs : ∀ start, ∃ final,
      operation.run start = (answer, final) ∧ start.Becomes start.files "" final)
    (second : EndsAs (next answer) ending) :
    EndsAs (liftM operation >>= next) ending := by
  intro start
  obtain ⟨middle, ran, becomes⟩ := runs start
  obtain ⟨final, ranNext, leaves⟩ := second middle
  rw [becomes.files] at ranNext leaves
  refine ⟨final, (run_bind_ok (run_lift ran) next).trans ranNext, leaves.files, ?_, ?_⟩
  · rw [leaves.output, becomes.output, String.append_empty]
  · rw [leaves.complaints, becomes.complaints]

theorem pure (value : α) :
    EndsAs (Pure.pure value) (fun files => .reading (.ok value) files) :=
  of_becomes (fun _ => rfl) fun _ => ⟨_, rfl, .silent _ _ _⟩

end EndsAs

end ReportIndex.Command
