import ReportIndex.Proofs.Result
import ReportIndex.Proofs.Workspace.Directory

/-!
Contract: operations that are done again on a later file system.

Owns:
- a directory that has been made is found, and nothing is created;
- a file that could be written can be written again, as long as all directories are
  still there and no directory has taken its place.

Does not own: what a program writes between the two times.
-/

namespace ReportIndex.Files

section

variable {earlier later : Files} (keeps : Keeps earlier later) {path : String}

include keeps

theorem Keeps.isDirectory (isDirectory : earlier.isDirectory path = true) :
    later.isDirectory path = true := by
  obtain ⟨reaches, present⟩ := (isDirectory_eq_true earlier path).mp isDirectory
  refine (isDirectory_eq_true later path).mpr ⟨keeps.reaches reaches, ?_⟩
  rw [keeps.place]
  exact keeps.directories _ present

theorem Keeps.walk
    {start goal : Location}
    {parts : List String}
    (walked : earlier.walk start parts = .ok goal) :
    later.walk start parts = .ok goal := by
  rw [walk_eq_ok_iff] at walked ⊢
  exact ⟨fun location member => keeps.directories location (walked.1 location member), walked.2⟩

theorem Keeps.origin (path : String) : later.origin path = earlier.origin path := by
  rw [Files.origin, Files.origin, keeps.workingDirectory]

theorem Keeps.locateParent
    {location : Location}
    (located : earlier.locateParent path = .ok location) :
    later.locateParent path = .ok location := by
  obtain ⟨start, origin, walked⟩ := (bind_eq_ok _ _ _).mp located
  rw [Files.locateParent, keeps.origin, origin]
  exact keeps.walk walked

theorem Keeps.write
    {content : ByteArray}
    {written : Files}
    (wrote : earlier.write path content = .ok written)
    (notDirectory : later.entry? (later.place path) ≠ some .directory)
    (other : ByteArray) :
    later.write path other = .ok (later.put (later.place path) (.file other)) := by
  obtain ⟨reaches, noSlash, _, _⟩ := write_eq_ok wrote
  obtain ⟨parent, located, _⟩ := (bind_eq_ok _ _ _).mp wrote
  exact write_of_located (keeps.locateParent located) noSlash (keeps.reaches reaches)
    notDirectory other

end

/-! ## Directories -/

section

variable {files : Files} {path : String} (isDirectory : files.isDirectory path = true)

include isDirectory

theorem createDirectory_of_isDirectory :
    files.createDirectory path = .error .alreadyExists := by
  obtain ⟨reaches, present⟩ := (isDirectory_eq_true files path).mp isDirectory
  exact createDirectory_of_exists reaches present

theorem ensureDirectories_of_isDirectory : files.ensureDirectories path = (.ok (), files) := by
  rw [ensureDirectories, ensureDirectoriesUpTo, createDirectory_of_isDirectory isDirectory]
  dsimp only
  rw [if_pos isDirectory]
  split <;> rfl

end

theorem Keeps.ensureDirectories
    {earlier made later : Files}
    {path : String}
    (keeps : Keeps made later)
    (ensured : earlier.ensureDirectories path = (.ok (), made)) :
    later.ensureDirectories path = (.ok (), later) := by
  by_cases empty : path = ""
  · subst empty
    exact ensureDirectories_empty later
  · exact ensureDirectories_of_isDirectory
      (keeps.isDirectory (isDirectory_of_ensureDirectories empty ensured))

end ReportIndex.Files
