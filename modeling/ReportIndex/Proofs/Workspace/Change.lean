import ReportIndex.Proofs.Workspace.Operation

/-!
Contract: where a file system has changed.

Owns:
- changes to files at paths of one kind and new directories at paths of another,
  as a relation between an earlier and a later file system;
- the changes of single operations, and of several in a row;
- files that can be read before exactly if they can be read afterwards.

Does not own: which paths a program changes.
-/

namespace ReportIndex.Files

/-- One of the paths names the place. -/
def Named (files : Files) (paths : String → Prop) (location : Location) : Prop :=
  ∃ path, paths path ∧ files.place path = location

/-- The later file system has other files at some of the pages' places, and further
directories at some of the directories' places, where nothing was before. Everything
else is as it was. -/
structure ChangesAt (pages directories : String → Prop) (earlier later : Files) : Prop where
  workingDirectory : later.workingDirectory = earlier.workingDirectory
  entries :
    ∀ location, later.entry? location = earlier.entry? location
      ∨ (earlier.Named pages location ∧ earlier.entry? location ≠ some .directory
          ∧ ∃ content, later.entry? location = some (.file content))
      ∨ (earlier.Named directories location ∧ earlier.entry? location = none
          ∧ later.entry? location = some .directory)

namespace ChangesAt

variable {pages directories : String → Prop} {earlier later latest : Files}

theorem refl (pages directories : String → Prop) (files : Files) :
    ChangesAt pages directories files files :=
  ⟨rfl, fun _ => .inl rfl⟩

theorem place
    (changes : ChangesAt pages directories earlier later)
    (path : String) :
    later.place path = earlier.place path := by
  rw [Files.place, Files.start, changes.workingDirectory]
  rfl

theorem named
    (changes : ChangesAt pages directories earlier later)
    {paths : String → Prop}
    {location : Location}
    (named : later.Named paths location) :
    earlier.Named paths location := by
  obtain ⟨path, isPath, there⟩ := named
  exact ⟨path, isPath, by rw [← changes.place, there]⟩

theorem trans
    (first : ChangesAt pages directories earlier later)
    (second : ChangesAt pages directories later latest) :
    ChangesAt pages directories earlier latest := by
  refine ⟨second.workingDirectory.trans first.workingDirectory, fun location => ?_⟩
  rcases second.entries location with same | ⟨isPage, notDirectory, isFile⟩ | ⟨named, missing, made⟩
  · rw [same]
    exact first.entries location
  · -- A page that is written again is either as old as before, or was written by the first.
    rcases first.entries location with same | ⟨_, before, _⟩ | ⟨_, _, isDirectory⟩
    · exact .inr (.inl ⟨first.named isPage, same ▸ notDirectory, isFile⟩)
    · exact .inr (.inl ⟨first.named isPage, before, isFile⟩)
    · exact absurd isDirectory notDirectory
  · rcases first.entries location with same | ⟨_, _, content, isFile⟩ | ⟨_, _, isDirectory⟩
    · exact .inr (.inr ⟨first.named named, same ▸ missing, made⟩)
    · rw [missing] at isFile
      cases isFile
    · rw [missing] at isDirectory
      cases isDirectory

theorem of_createDirectory
    {files made : Files}
    {path : String}
    (allowed : directories path)
    (created : files.createDirectory path = .ok made) :
    ChangesAt pages directories files made := by
  obtain ⟨_, missing, rfl⟩ := (createDirectory_eq_ok files path made).mp created
  have notRoot : files.place path ≠ [] := ne_nil_of_ne_directory (by rw [missing]; simp)
  refine ⟨rfl, fun location => ?_⟩
  rw [put_apply files notRoot]
  split
  next same => exact .inr (.inr ⟨⟨path, allowed, same.symm⟩, same ▸ missing, rfl⟩)
  next => exact .inl rfl

theorem of_write
    {files written : Files}
    {path : String}
    {content : ByteArray}
    (allowed : pages path)
    (wrote : files.write path content = .ok written) :
    ChangesAt pages directories files written := by
  obtain ⟨_, _, notDirectory, rfl⟩ := write_eq_ok wrote
  refine ⟨rfl, fun location => ?_⟩
  rw [put_apply files (ne_nil_of_ne_directory notDirectory)]
  split
  next same => exact .inr (.inl ⟨⟨path, allowed, same.symm⟩, same ▸ notDirectory, content, rfl⟩)
  next => exact .inl rfl

theorem of_ensureDirectory
    (files : Files)
    {path : String}
    (allowed : directories path) :
    ChangesAt pages directories files (files.ensureDirectory path).2 := by
  rw [ensureDirectory]
  cases created : files.createDirectory path with
  | ok made => exact of_createDirectory allowed created
  | error error =>
      dsimp only
      split <;> exact refl _ _ files

/-- Creating a directory with those above it changes no file. -/
theorem of_ensureDirectoriesUpTo
    (pages : String → Prop)
    (steps : Nat)
    (files : Files)
    (path : String) :
    ChangesAt pages (fun _ => True) files (files.ensureDirectoriesUpTo steps path).2 := by
  induction steps generalizing path with
  | zero => exact of_ensureDirectory files trivial
  | succ steps inductionHypothesis =>
      rw [ensureDirectoriesUpTo]
      split
      · exact refl _ _ files
      split
      next made created => exact of_createDirectory trivial created
      next =>
        split
        next => exact refl _ _ files
        next parent _ =>
          have above := inductionHypothesis parent
          split
          next error made ensured =>
            rw [ensured] at above
            exact above
          next made ensured =>
            rw [ensured] at above
            exact above.trans (of_ensureDirectory made trivial)
      next => split <;> exact refl _ _ files

section

variable (changes : ChangesAt pages directories earlier later)

include changes

theorem keeps : Keeps earlier later := by
  refine ⟨changes.workingDirectory, fun location isDirectory => ?_⟩
  rcases changes.entries location with same | ⟨_, notDirectory, _⟩ | ⟨_, missing, _⟩
  · rw [same, isDirectory]
  · exact absurd isDirectory notDirectory
  · rw [missing] at isDirectory
    cases isDirectory

/-- Where a file was, a file is. -/
theorem exists_file
    {location : Location}
    {content : ByteArray}
    (isFile : earlier.entry? location = some (.file content)) :
    ∃ content, later.entry? location = some (.file content) := by
  rcases changes.entries location with same | ⟨_, _, written⟩ | ⟨_, missing, _⟩
  · exact ⟨content, same.trans isFile⟩
  · exact written
  · rw [missing] at isFile
    cases isFile

variable {path : String} (unwritten : ¬earlier.Named pages (earlier.place path))

include unwritten

/-- A file that is no page is there afterwards exactly if it was there before. -/
theorem file_iff (content : ByteArray) :
    later.entry? (earlier.place path) = some (.file content) ↔
      earlier.entry? (earlier.place path) = some (.file content) := by
  rcases changes.entries (earlier.place path) with same | ⟨named, _⟩ | ⟨_, missing, made⟩
  · rw [same]
  · exact absurd named unwritten
  · simp [missing, made]

/-- New directories lead to no file that could not be reached before. -/
theorem read_iff
    (reached : later.Reaches path → earlier.Reaches path)
    (content : ByteArray) :
    later.read path = .ok content ↔ earlier.read path = .ok content := by
  rw [read_eq_ok, read_eq_ok, changes.place, changes.file_iff unwritten]
  exact and_congr_left' ⟨reached, changes.keeps.reaches⟩

end

end ChangesAt

end ReportIndex.Files
