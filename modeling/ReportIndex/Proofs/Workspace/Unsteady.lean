import ReportIndex.Proofs.Workspace.Ancestor
import ReportIndex.Proofs.Workspace.Change

/-!
Contract: running a command on a file system that may fail at any change.

Owns:
- surroundings in which a change of a file can end with an error although nothing
  stands against it, and then leave an unfinished file behind;
- what a computation changes there, put together from its parts;
- the agreement with the steady simulation for computations that only read.

Does not own: the commands.
-/

namespace ReportIndex

/-- How a change of a file ends that the system breaks off. -/
structure Mishap where
  error : IoError
  /-- What the file holds that was to be written, if it was begun. -/
  left : Option ByteArray := none

/-- The files after a mishap to the file at a path. -/
def Mishap.filesAfter (mishap : Mishap) (path : String) (files : Files) : Files :=
  match mishap.left.map (files.write path) with
  | some (.ok begun) => begun
  | _ => files

/-- Surroundings in which any change of a file may be broken off. -/
structure Unsteady where
  surroundings : Surroundings
  /-- What happens to the coming changes of files, one after the other. -/
  mishaps : List (Option Mishap) := []

namespace Unsteady

/-- A computation whose changes of files may be broken off. -/
abbrev Run := StateM Unsteady

/-- The files of the surroundings. -/
def files (state : Unsteady) : Files :=
  state.surroundings.files

/-- A computation that nothing happens to. -/
def steadily {α : Type} (action : Simulation α) : Run α := fun state =>
  let outcome := action.run state.surroundings
  (outcome.1, { state with surroundings := outcome.2 })

/-- A change of a file: the next mishap, if there is one for it, or its outcome in
the simulation. -/
def change
    (unfinished : Mishap → Files → Files)
    (action : Simulation (Except IoError Unit)) :
    Run (Except IoError Unit) := fun state =>
  match state.mishaps with
  | some mishap :: mishaps =>
      (.error mishap.error,
        { surroundings :=
            { state.surroundings with files := unfinished mishap state.surroundings.files }
          mishaps })
  | mishaps => steadily action { state with mishaps := mishaps.tail }

instance : Workspace Run where
  workingDirectory := steadily Workspace.workingDirectory
  kind? path := steadily (Workspace.kind? path)
  readBytes path := steadily (Workspace.readBytes path)
  createDirectory path := change (fun _ files => files) (Workspace.createDirectory path)
  writeBytes path content :=
    change (fun mishap => mishap.filesAfter path) (Workspace.writeBytes path content)
  record event := steadily (Workspace.record event)
  print text := steadily (Workspace.print text)
  complain text := steadily (Workspace.complain text)

/-! ## Reading -/

section

variable {α β : Type}

@[simp]
theorem steadily_bind (action : Simulation α) (next : α → Simulation β) :
    steadily (action >>= next) = steadily action >>= fun value => steadily (next value) := rfl

/-- A computation goes on with what the simulation comes to. -/
theorem run_steadily_bind
    {action : Simulation α}
    {state : Unsteady}
    {value : α}
    {after : Surroundings}
    (ran : action.run state.surroundings = (value, after))
    (next : α → Run β) :
    (steadily action >>= next).run state = (next value).run { state with surroundings := after } := by
  have steady : (steadily action).run state = (value, { state with surroundings := after }) := by
    rw [StateT.run, steadily, ran]
  rw [StateT.run_bind, steady]
  rfl

end

/-! ## What a computation changes -/

/-- Whatever happens, the computation changes files only at these paths. -/
def Confines
    (pages directories : String → Prop)
    {α : Type}
    (action : Run α) :
    Prop :=
  ∀ state, Files.ChangesAt pages directories state.files (action.run state).2.files

namespace Confines

variable {pages directories : String → Prop} {α β : Type}

theorem pure (value : α) : Confines pages directories (Pure.pure value) :=
  fun state => .refl _ _ state.files

/-- What comes after a computation adds only its own changes. -/
theorem after
    {action : Run α}
    {next : α → Run β}
    {earlier : Files}
    {state : Unsteady}
    (first : earlier.ChangesAt pages directories (action.run state).2.files)
    (second : ∀ value, Confines pages directories (next value)) :
    earlier.ChangesAt pages directories ((action >>= next).run state).2.files :=
  first.trans (second _ _)

theorem bind
    {action : Run α}
    {next : α → Run β}
    (first : Confines pages directories action)
    (second : ∀ value, Confines pages directories (next value)) :
    Confines pages directories (action >>= next) :=
  fun state => after (first state) second

theorem map
    {action : Run α}
    (confines : Confines pages directories action)
    (function : α → β) :
    Confines pages directories (function <$> action) :=
  confines

/-- What only reads, logs or prints changes no file. -/
theorem steadily
    {action : Simulation α}
    (reads : ∀ surroundings, (action.run surroundings).2.files = surroundings.files) :
    Confines pages directories (steadily action) := by
  intro state
  have unchanged : ((Unsteady.steadily action).run state).2.files = state.files :=
    reads state.surroundings
  rw [unchanged]
  exact .refl _ _ _

theorem kind? (path : String) : Confines pages directories (Workspace.kind? path) :=
  .steadily fun _ => rfl

theorem record (event : Log.Event) : Confines pages directories (Workspace.record event) :=
  .steadily fun _ => rfl

theorem print (text : String) : Confines pages directories (Workspace.print text) :=
  .steadily fun _ => rfl

theorem complain (text : String) : Confines pages directories (Workspace.complain text) :=
  .steadily fun _ => rfl

theorem change
    {unfinished : Mishap → Files → Files}
    {action : Simulation (Except IoError Unit)}
    (begun : ∀ mishap files, Files.ChangesAt pages directories files (unfinished mishap files))
    (done : ∀ surroundings,
      Files.ChangesAt pages directories surroundings.files (action.run surroundings).2.files) :
    Confines pages directories (change unfinished action) := by
  intro state
  rw [StateT.run, Unsteady.change]
  split
  · exact begun _ state.files
  · exact done state.surroundings

theorem createDirectory
    {path : String}
    (allowed : directories path) :
    Confines pages directories (Workspace.createDirectory path) := by
  refine .change (fun _ files => .refl _ _ files) fun surroundings => ?_
  rw [Simulation.run_createDirectory]
  cases created : surroundings.files.createDirectory path with
  | ok made => exact .of_createDirectory allowed created
  | error error => exact .refl _ _ _

theorem writeBytes
    {path : String}
    (allowed : pages path)
    (content : ByteArray) :
    Confines pages directories (Workspace.writeBytes path content) := by
  have written : ∀ (files : Files) (content : ByteArray) (after : Files),
      files.write path content = .ok after → Files.ChangesAt pages directories files after :=
    fun _ _ _ wrote => .of_write allowed wrote
  refine .change (fun mishap files => ?_) fun surroundings => ?_
  · rw [Mishap.filesAfter]
    cases mishap.left with
    | none => exact .refl _ _ files
    | some left =>
        rw [Option.map_some]
        cases wrote : files.write path left with
        | ok after => exact written files left after wrote
        | error error => exact .refl _ _ files
  · rw [Simulation.run_writeBytes]
    cases wrote : surroundings.files.write path content with
    | ok after => exact written _ _ after wrote
    | error error => exact .refl _ _ _

theorem isDirectory (path : String) : Confines pages directories (Workspace.isDirectory path) :=
  (kind? path).bind fun _ => .pure _

theorem ensureDirectory
    {path : String}
    (allowed : directories path) :
    Confines pages directories (Workspace.ensureDirectory path) := by
  refine (createDirectory allowed).bind fun outcome => ?_
  cases outcome with
  | ok made => exact .pure _
  | error error =>
      refine (isDirectory path).bind fun there => ?_
      cases there <;> exact .pure _

/-- Creating a directory with those above it creates none but its ancestors. -/
theorem ensureDirectoriesUpTo
    (steps : Nat)
    {path : String}
    (allowed : ∀ ancestor, Path.IsAncestor ancestor path → directories ancestor) :
    Confines pages directories (Workspace.ensureDirectoriesUpTo steps path) := by
  induction steps generalizing path with
  | zero => exact ensureDirectory (allowed path (.self path))
  | succ steps inductionHypothesis =>
      rw [Workspace.ensureDirectoriesUpTo]
      split
      · exact .pure _
      refine (createDirectory (allowed path (.self path))).bind fun outcome => ?_
      have looks : ∀ error : IoError, Confines pages directories (do
          if ← Workspace.isDirectory path then Pure.pure (Except.ok ())
          else Pure.pure (Except.error error)) := by
        intro error
        refine (isDirectory path).bind fun there => ?_
        cases there <;> exact .pure _
      rcases outcome with error | made
      · cases error with
        | notFound =>
            cases found : Path.parent? path with
            | none => exact .pure _
            | some parent =>
                refine (inductionHypothesis fun ancestor isAncestor =>
                  allowed ancestor (.above found isAncestor)).bind fun above => ?_
                cases above with
                | error error => exact .pure _
                | ok made => exact ensureDirectory (allowed path (.self path))
        | _ => exact looks _
      · exact .pure _

end Confines

end Unsteady

end ReportIndex
