import ReportIndex.Proofs.Workspace.Operation

/-!
Contract: creating a directory together with those above it.

Owns:
- the step to the directory above, on the places that a path runs through;
- nothing but missing directories on the way of the path is added, whatever the
  outcome;
- a success means that the path leads to a directory.

Does not own: what is written into the directories.
-/

namespace ReportIndex.Files

/-! ## The step to the directory above -/

section

variable {path parent : String} (isParent : Path.IsParent path parent) (files : Files)

include isParent

theorem mem_before_of_isParent (location : Location) :
    location ∈ files.before path ↔ location ∈ files.way parent := by
  obtain ⟨dots, name, parts⟩ := isParent.parts
  have start : files.start path = files.start parent := by
    rw [Files.start, ← isParent.isAbsolute, Files.start]
  have goal : (Path.parts parent).foldl step (files.start parent) = files.place parent := rfl
  rw [before, start, parts, passed_append, passed_append, List.foldl_append, passed_dots,
    foldl_step_dots, goal, way, before]
  simp only [passed, List.mem_append, List.mem_replicate, List.mem_singleton]
  tauto

theorem way_subset_of_isParent : files.way parent ⊆ files.way path := by
  intro location member
  exact List.mem_append_left _ ((mem_before_of_isParent isParent files location).mpr member)

end

/-! ## File systems that grow -/

/-- The later file system has further directories at some of the given places,
where nothing was before. -/
structure Grows (places : List Location) (earlier later : Files) : Prop where
  workingDirectory : later.workingDirectory = earlier.workingDirectory
  entries :
    ∀ location, later.entry? location = earlier.entry? location
      ∨ (location ∈ places ∧ earlier.entry? location = none
          ∧ later.entry? location = some .directory)

namespace Grows

variable {places more : List Location} {earlier later latest : Files}

theorem refl (places : List Location) (files : Files) : Grows places files files :=
  ⟨rfl, fun _ => .inl rfl⟩

theorem mono (grows : Grows places earlier later) (subset : places ⊆ more) :
    Grows more earlier later :=
  ⟨grows.workingDirectory, fun location =>
    (grows.entries location).imp_right fun ⟨member, rest⟩ => ⟨subset member, rest⟩⟩

theorem trans (first : Grows places earlier later) (second : Grows places later latest) :
    Grows places earlier latest := by
  refine ⟨second.workingDirectory.trans first.workingDirectory, fun location => ?_⟩
  rcases second.entries location with same | ⟨member, missing, isDirectory⟩
  · rw [same]
    exact first.entries location
  · rcases first.entries location with same | ⟨_, _, present⟩
    · exact .inr ⟨member, same ▸ missing, isDirectory⟩
    · rw [missing] at present
      cases present

theorem keeps (grows : Grows places earlier later) : Keeps earlier later := by
  refine ⟨grows.workingDirectory, fun location isDirectory => ?_⟩
  rcases grows.entries location with same | ⟨_, missing, _⟩
  · rw [same, isDirectory]
  · rw [missing] at isDirectory
    cases isDirectory

/-- What is no new directory is as it was. -/
theorem unchanged_of_ne_directory
    (grows : Grows places earlier later)
    {location : Location}
    (notDirectory : later.entry? location ≠ some .directory) :
    later.entry? location = earlier.entry? location :=
  (grows.entries location).resolve_right fun ⟨_, _, isDirectory⟩ => notDirectory isDirectory

theorem unchanged_of_not_mem
    (grows : Grows places earlier later)
    {location : Location}
    (outside : location ∉ places) :
    later.entry? location = earlier.entry? location :=
  (grows.entries location).resolve_right fun ⟨member, _⟩ => outside member

end Grows

/-! ## One directory -/

theorem grows_put_directory
    {files : Files}
    {location : Location}
    (missing : files.entry? location = none)
    {places : List Location}
    (member : location ∈ places) :
    Grows places files (files.put location .directory) := by
  have notRoot : location ≠ [] := ne_nil_of_ne_directory (by rw [missing]; simp)
  refine ⟨rfl, fun other => ?_⟩
  rw [put_apply files notRoot]
  split
  next same => exact .inr ⟨same ▸ member, same ▸ missing, rfl⟩
  next => exact .inl rfl

theorem grows_of_createDirectory
    {files made : Files}
    {path : String}
    (created : files.createDirectory path = .ok made) :
    Grows (files.way path) files made := by
  obtain ⟨_, missing, rfl⟩ := (createDirectory_eq_ok files path made).mp created
  exact grows_put_directory missing (List.mem_append_right _ (List.mem_singleton_self _))

theorem isDirectory_of_createDirectory
    {files made : Files}
    {path : String}
    (created : files.createDirectory path = .ok made) :
    made.isDirectory path = true := by
  have keeps := (grows_of_createDirectory created).keeps
  obtain ⟨reaches, missing, rfl⟩ := (createDirectory_eq_ok files path made).mp created
  have notRoot : files.place path ≠ [] := ne_nil_of_ne_directory (by rw [missing]; simp)
  refine (isDirectory_eq_true _ path).mpr ⟨keeps.reaches reaches, ?_⟩
  rw [keeps.place, put_apply files notRoot, if_pos rfl]

theorem ensureDirectory_grows (files : Files) (path : String) :
    Grows (files.way path) files (files.ensureDirectory path).2 := by
  rw [ensureDirectory]
  cases created : files.createDirectory path with
  | ok made => exact grows_of_createDirectory created
  | error error =>
      dsimp only
      split <;> exact .refl _ files

theorem isDirectory_of_ensureDirectory
    {files made : Files}
    {path : String}
    (ensured : files.ensureDirectory path = (.ok (), made)) :
    made.isDirectory path = true := by
  rw [ensureDirectory] at ensured
  cases created : files.createDirectory path with
  | ok new =>
      rw [created] at ensured
      cases ensured
      exact isDirectory_of_createDirectory created
  | error error =>
      rw [created] at ensured
      dsimp only at ensured
      split at ensured
      next isDirectory =>
        cases ensured
        exact isDirectory
      next => cases ensured

/-! ## A directory and those above it -/

theorem ensureDirectoriesUpTo_grows
    (steps : Nat)
    (files : Files)
    {path : String}
    (isCleaned : Path.IsCleaned path) :
    Grows (files.way path) files (files.ensureDirectoriesUpTo steps path).2 := by
  induction steps generalizing path with
  | zero => exact ensureDirectory_grows files path
  | succ steps inductionHypothesis =>
      rw [ensureDirectoriesUpTo]
      split
      · exact .refl _ files
      next nonempty =>
        have nonempty : path ≠ "" := by simpa using nonempty
        split
        next made created => exact grows_of_createDirectory created
        next =>
          split
          next => exact .refl _ files
          next parent found =>
            have isParent := isCleaned.isParent found
            have above := inductionHypothesis isParent.isCleaned
            have above := above.mono (way_subset_of_isParent isParent files)
            split
            next error made ensured =>
              rw [ensured] at above
              exact above
            next made ensured =>
              rw [ensured] at above
              have last := ensureDirectory_grows made path
              rw [above.keeps.way] at last
              exact above.trans last
        next => split <;> exact .refl _ files

theorem grows_of_ensureDirectories
    {files made : Files}
    {path : String}
    {outcome : Except IoError Unit}
    (isCleaned : Path.IsCleaned path)
    (ensured : files.ensureDirectories path = (outcome, made)) :
    Grows (files.way path) files made := by
  have grows := ensureDirectoriesUpTo_grows (path.length + 1) files isCleaned
  rwa [← ensureDirectories, ensured] at grows

/-- A directory that has been created with those above it is there. -/
theorem isDirectory_of_ensureDirectoriesUpTo
    {steps : Nat}
    {files made : Files}
    {path : String}
    (nonempty : path ≠ "")
    (ensured : files.ensureDirectoriesUpTo steps path = (.ok (), made)) :
    made.isDirectory path = true := by
  cases steps with
  | zero => exact isDirectory_of_ensureDirectory ensured
  | succ steps =>
      rw [ensureDirectoriesUpTo, if_neg (by simpa using nonempty)] at ensured
      split at ensured
      next made created =>
        cases ensured
        exact isDirectory_of_createDirectory created
      next =>
        split at ensured
        next => cases ensured
        next parent found =>
          split at ensured
          next => cases ensured
          next => exact isDirectory_of_ensureDirectory ensured
      next =>
        split at ensured
        next isDirectory =>
          cases ensured
          exact isDirectory
        next => cases ensured

theorem isDirectory_of_ensureDirectories
    {files made : Files}
    {path : String}
    (nonempty : path ≠ "")
    (ensured : files.ensureDirectories path = (.ok (), made)) :
    made.isDirectory path = true :=
  isDirectory_of_ensureDirectoriesUpTo nonempty ensured

section

variable
  {files : Files}
  {path : String}
  (reaches : files.Reaches path)
  (noFile :
    files.entry? (files.place path) = none ∨ files.entry? (files.place path) = some .directory)

include reaches noFile

/-- Nothing is missing before a path's place, and no file is there: then a
directory can be created there, or is there. -/
theorem createDirectory_of_reaches :
    (∃ made, files.createDirectory path = .ok made)
      ∨ (files.createDirectory path = .error .alreadyExists ∧ files.isDirectory path = true) := by
  rcases noFile with missing | present
  · exact .inl ⟨_, (createDirectory_eq_ok files path _).mpr ⟨reaches, missing, rfl⟩⟩
  · exact .inr ⟨createDirectory_of_exists reaches present,
      (isDirectory_eq_true files path).mpr ⟨reaches, present⟩⟩

theorem ensureDirectory_of_reaches : ∃ made, files.ensureDirectory path = (.ok (), made) := by
  rw [ensureDirectory]
  rcases createDirectory_of_reaches reaches noFile with ⟨made, created⟩ | ⟨conflict, isDirectory⟩
  · rw [created]
    exact ⟨made, rfl⟩
  · rw [conflict, isDirectory]
    exact ⟨files, rfl⟩

theorem ensureDirectoriesUpTo_of_reaches (steps : Nat) :
    ∃ made, files.ensureDirectoriesUpTo steps path = (.ok (), made) := by
  cases steps with
  | zero => exact ensureDirectory_of_reaches reaches noFile
  | succ steps =>
      rw [ensureDirectoriesUpTo, if_neg (by simpa using reaches.askable.nonempty)]
      rcases createDirectory_of_reaches reaches noFile with
        ⟨made, created⟩ | ⟨conflict, isDirectory⟩
      · rw [created]
        exact ⟨made, rfl⟩
      · rw [conflict, isDirectory]
        exact ⟨files, rfl⟩

end

end ReportIndex.Files
