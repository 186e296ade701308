import ReportIndex.Proofs.Workspace.Effect
import ReportIndex.Proofs.Workspace.Walk

/-!
Contract: when the operations on a file system succeed, and what they change.

Owns:
- reading, creating one directory and writing, each as conditions on the places
  that its path runs through;
- reading back what has been written.

Does not own: operations that take several steps.
-/

namespace ReportIndex.Files

/-- A path can be asked for, and the places before the one it names are
directories. -/
structure Reaches (files : Files) (path : String) : Prop where
  askable : Askable path
  before : ∀ location ∈ files.before path, files.entry? location = some .directory

instance (files : Files) (path : String) : Decidable (files.Reaches path) :=
  decidable_of_iff
    (Askable path ∧ ∀ location ∈ files.before path, files.entry? location = some .directory)
    ⟨fun ⟨askable, before⟩ => ⟨askable, before⟩, fun reaches => ⟨reaches.askable, reaches.before⟩⟩

theorem locate_eq_ok (files : Files) (path : String) (location : Location) :
    files.locate path = .ok location ↔ files.Reaches path ∧ location = files.place path := by
  rw [locate_eq_ok_iff]
  exact ⟨fun ⟨askable, before, place⟩ => ⟨⟨askable, before⟩, place⟩,
    fun ⟨reaches, place⟩ => ⟨reaches.askable, reaches.before, place⟩⟩

theorem Reaches.locate
    {files : Files}
    {path : String}
    (reaches : files.Reaches path) :
    files.locate path = .ok (files.place path) :=
  (locate_eq_ok files path _).mpr ⟨reaches, rfl⟩

theorem locate_eq_error
    {files : Files}
    {path : String}
    (unreachable : ¬files.Reaches path) :
    ∃ error, files.locate path = .error error := by
  cases located : files.locate path with
  | error error => exact ⟨error, rfl⟩
  | ok location => exact absurd ((locate_eq_ok files path location).mp located).1 unreachable

theorem Keeps.reaches
    {earlier later : Files}
    (keeps : Keeps earlier later)
    {path : String}
    (reaches : earlier.Reaches path) :
    later.Reaches path := by
  refine ⟨reaches.askable, fun location member => ?_⟩
  rw [keeps.before] at member
  exact keeps.directories location (reaches.before location member)

theorem reaches_join
    {name : String}
    (isName : Path.IsName name)
    (files : Files)
    (directory : String) :
    files.Reaches (Path.join directory name) ↔
      Askable (Path.join directory name) ∧ files.Leads directory := by
  rw [Leads, ← before_join isName]
  exact ⟨fun reaches => ⟨reaches.askable, reaches.before⟩, fun ⟨askable, before⟩ => ⟨askable, before⟩⟩

/-! ## Looking -/

theorem find_eq_ok (files : Files) (path : String) (location : Location) (entry : Entry) :
    files.find path = .ok (location, entry) ↔
      files.Reaches path ∧ files.place path = location
        ∧ files.entry? (files.place path) = some entry
        ∧ (entry = .directory ∨ Path.endsInSlash path = false) := by
  by_cases reaches : files.Reaches path
  · rw [find, reaches.locate]
    simp only [reaches, true_and, bind, Except.bind, pure, Except.pure]
    cases files.entry? (files.place path) with
    | none => simp
    | some found =>
        cases found with
        | directory => cases entry <;> simp
        | file content => cases Path.endsInSlash path <;> cases entry <;> simp
  · obtain ⟨error, located⟩ := locate_eq_error reaches
    rw [find, located]
    simp [reaches, bind, Except.bind]

theorem isDirectory_eq_true (files : Files) (path : String) :
    files.isDirectory path = true ↔
      files.Reaches path ∧ files.entry? (files.place path) = some .directory := by
  have found := find_eq_ok files path
  rw [isDirectory, kind?]
  cases outcome : files.find path with
  | error error =>
      simp only [outcome, reduceCtorEq, false_iff] at found
      simp only [Except.toOption, Option.map_none, beq_iff_eq, reduceCtorEq, false_iff]
      rintro ⟨reaches, isDirectory⟩
      exact found _ _ ⟨reaches, rfl, isDirectory, .inl rfl⟩
  | ok result =>
      obtain ⟨location, entry⟩ := result
      obtain ⟨reaches, _, present, _⟩ := (found location entry).mp outcome
      cases entry <;> simp [Except.toOption, Entry.kind, reaches, present]

theorem leads_of_isDirectory
    {files : Files}
    {path : String}
    (isDirectory : files.isDirectory path = true) :
    files.Leads path := by
  obtain ⟨reaches, present⟩ := (isDirectory_eq_true files path).mp isDirectory
  intro location member
  rcases List.mem_append.mp member with earlier | goal
  · exact reaches.before location earlier
  · rw [List.mem_singleton.mp goal, present]

theorem read_eq_ok (files : Files) (path : String) (content : ByteArray) :
    files.read path = .ok content ↔
      files.Reaches path ∧ files.entry? (files.place path) = some (.file content)
        ∧ Path.endsInSlash path = false := by
  have found := find_eq_ok files path
  rw [read]
  cases outcome : files.find path with
  | error error =>
      simp only [outcome, reduceCtorEq, false_iff] at found
      simp only [bind, Except.bind, reduceCtorEq, false_iff]
      rintro ⟨reaches, present, noSlash⟩
      exact found _ _ ⟨reaches, rfl, present, .inr noSlash⟩
  | ok result =>
      obtain ⟨location, entry⟩ := result
      obtain ⟨reaches, _, present, noSlash⟩ := (found location entry).mp outcome
      cases entry with
      | directory => simp [bind, Except.bind, present]
      | file stored =>
          have noSlash : Path.endsInSlash path = false := by simpa using noSlash
          simp [bind, Except.bind, pure, Except.pure, present, reaches, noSlash]

/-! ## Changing -/

theorem createDirectory_eq_ok (files : Files) (path : String) (made : Files) :
    files.createDirectory path = .ok made ↔
      files.Reaches path ∧ files.entry? (files.place path) = none
        ∧ made = files.put (files.place path) .directory := by
  by_cases reaches : files.Reaches path
  · rw [createDirectory, reaches.locate]
    simp only [reaches, true_and, bind, Except.bind, pure, Except.pure]
    cases files.entry? (files.place path) with
    | none => simp [eq_comm]
    | some entry => simp
  · obtain ⟨error, located⟩ := locate_eq_error reaches
    rw [createDirectory, located]
    simp [reaches, bind, Except.bind]

theorem createDirectory_of_exists
    {files : Files}
    {path : String}
    {entry : Entry}
    (reaches : files.Reaches path)
    (present : files.entry? (files.place path) = some entry) :
    files.createDirectory path = .error .alreadyExists := by
  rw [createDirectory, reaches.locate]
  simp only [bind, Except.bind, present]

theorem write_eq_ok
    {files written : Files}
    {path : String}
    {content : ByteArray}
    (outcome : files.write path content = .ok written) :
    files.Reaches path ∧ Path.endsInSlash path = false
      ∧ files.entry? (files.place path) ≠ some .directory
      ∧ written = files.put (files.place path) (.file content) := by
  rw [write] at outcome
  cases parent : files.locateParent path with
  | error error =>
      rw [parent] at outcome
      cases outcome
  | ok above =>
      rw [parent] at outcome
      simp only [bind, Except.bind, pure, Except.pure] at outcome
      split at outcome
      next => cases outcome
      next noSlash =>
        by_cases reaches : files.Reaches path
        · rw [reaches.locate] at outcome
          refine ⟨reaches, by simpa using noSlash, ?_⟩
          dsimp only at outcome
          split at outcome
          next => cases outcome
          next notDirectory =>
            cases outcome
            exact ⟨notDirectory, rfl⟩
        · obtain ⟨error, located⟩ := locate_eq_error reaches
          rw [located] at outcome
          cases outcome

/-- The place that a new entry is put at keeps no directory from its place. -/
theorem keeps_put
    {files : Files}
    {location : Location}
    (notDirectory : files.entry? location ≠ some .directory)
    (entry : Entry) :
    Keeps files (files.put location entry) := by
  refine ⟨rfl, fun other isDirectory => ?_⟩
  rw [put_apply files (ne_nil_of_ne_directory notDirectory)]
  split
  next same =>
    subst same
    exact absurd isDirectory notDirectory
  next => exact isDirectory

theorem locateParent_join
    {files : Files}
    {directory name : String}
    (isName : Path.IsName name)
    (reaches : files.Reaches (Path.join directory name)) :
    ∃ location, files.locateParent (Path.join directory name) = .ok location := by
  obtain ⟨askable, leads⟩ := (reaches_join isName files directory).mp reaches
  have names := askable.names
  rw [Path.parts_join isName] at names
  have origin := (origin_eq_ok_iff files _ _).mpr
    ⟨askable.noNul, askable.nonempty, askable.short, rfl⟩
  refine ⟨files.place directory, ?_⟩
  rw [locateParent, origin, Path.parts_join isName, List.dropLast_concat, start_join isName]
  refine (walk_eq_ok_iff files _ _ _).mpr ⟨?_, ?_, ?_⟩
  · rw [passed_append]
    exact leads
  · intro part member
    rcases List.mem_append.mp member with inDirectory | isDot
    · exact names part (List.mem_append_left _ inDirectory)
    · rw [List.mem_singleton.mp isDot]
      decide
  · rw [List.foldl_concat]
    rfl

theorem write_of_located
    {files : Files}
    {path : String}
    {parent : Location}
    (located : files.locateParent path = .ok parent)
    (noSlash : Path.endsInSlash path = false)
    (reaches : files.Reaches path)
    (notDirectory : files.entry? (files.place path) ≠ some .directory)
    (content : ByteArray) :
    files.write path content = .ok (files.put (files.place path) (.file content)) := by
  rw [write, located]
  simp only [bind, Except.bind, noSlash, Bool.false_eq_true, if_false, reaches.locate]
  rfl

/-- A name that is joined to a directory can be written as soon as it can be
asked for and is no directory. -/
theorem write_join
    {files : Files}
    {directory name : String}
    (isName : Path.IsName name)
    (reaches : files.Reaches (Path.join directory name))
    (notDirectory : files.entry? (files.place (Path.join directory name)) ≠ some .directory)
    (content : ByteArray) :
    files.write (Path.join directory name) content =
      .ok (files.put (files.place (Path.join directory name)) (.file content)) := by
  obtain ⟨parent, located⟩ := locateParent_join isName reaches
  exact write_of_located located (Path.endsInSlash_join isName directory) reaches notDirectory content

theorem keeps_of_write
    {files written : Files}
    {path : String}
    {content : ByteArray}
    (outcome : files.write path content = .ok written) :
    Keeps files written := by
  obtain ⟨_, _, notDirectory, rfl⟩ := write_eq_ok outcome
  exact keeps_put notDirectory _

theorem read_of_write
    {files written : Files}
    {path : String}
    {content : ByteArray}
    (outcome : files.write path content = .ok written) :
    written.read path = .ok content := by
  have keeps := keeps_of_write outcome
  obtain ⟨reaches, noSlash, notDirectory, rfl⟩ := write_eq_ok outcome
  refine (read_eq_ok _ path content).mpr ⟨keeps.reaches reaches, ?_, noSlash⟩
  rw [keeps.place, put_apply files (ne_nil_of_ne_directory notDirectory), if_pos rfl]

end ReportIndex.Files
