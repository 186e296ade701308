import ReportIndex.Proofs.Workspace.Directory

/-!
Contract: creating directories where no file stands in the way.

Owns:
- a walk that no file stops fails only for want of a directory;
- on a way without files, a directory and those above it can always be created.

Does not own: what is below the directory.
-/

namespace ReportIndex.Files

/-- What kind of entry is at a location, if any is. -/
def kindAt (files : Files) (location : Location) : Option EntryKind :=
  Option.map Entry.kind <| files.entry? location

/-- No file stands on the way of a path. -/
def Clear (files : Files) (path : String) : Prop :=
  ∀ location ∈ files.way path, files.kindAt location ≠ some .file

instance (files : Files) (path : String) : Decidable (files.Clear path) := by
  unfold Clear
  infer_instance

theorem none_or_directory_of_ne_file
    {files : Files}
    {location : Location}
    (noFile : files.kindAt location ≠ some .file) :
    files.entry? location = none ∨ files.entry? location = some .directory := by
  rw [kindAt] at noFile
  match found : files.entry? location with
  | none => exact .inl rfl
  | some .directory => exact .inr rfl
  | some (.file content) =>
      rw [found] at noFile
      exact absurd rfl noFile

theorem Grows.clear
    {places : List Location}
    {earlier later : Files}
    (grows : Grows places earlier later)
    {path : String}
    (clear : earlier.Clear path) :
    later.Clear path := by
  intro location member
  rw [grows.keeps.way] at member
  rcases grows.entries location with same | ⟨_, _, isDirectory⟩
  · rw [kindAt, same]
    exact clear location member
  · simp [kindAt, isDirectory, Entry.kind]

theorem place_mem_way (files : Files) (path : String) : files.place path ∈ files.way path :=
  List.mem_append_right _ (List.mem_singleton_self _)

/-- A walk along names that fit, past no file, fails only where something is
missing. -/
theorem walk_eq_notFound
    {files : Files}
    {start : Location}
    {parts : List String}
    (noFile : ∀ location ∈ passed start parts,
      files.kindAt location ≠ some .file)
    (names : ∀ part ∈ parts, part.utf8ByteSize ≤ longestName)
    (missing : ∃ location ∈ passed start parts, files.entry? location ≠ some .directory) :
    files.walk start parts = .error .notFound := by
  induction parts generalizing start with
  | nil => simp [passed] at missing
  | cons part parts inductionHypothesis =>
      rw [passed, List.forall_mem_cons] at noFile
      rw [List.forall_mem_cons] at names
      rw [passed, List.exists_mem_cons_iff] at missing
      rcases none_or_directory_of_ne_file noFile.1 with absent | isDirectory
      · rw [walk, absent]
      · rw [walk_cons_of_directory isDirectory, if_neg (Nat.not_lt.mpr names.1)]
        exact inductionHypothesis noFile.2 names.2
          (missing.resolve_left fun different => different isDirectory)

theorem createDirectory_eq_notFound
    {files : Files}
    {path : String}
    (askable : Askable path)
    (clear : files.Clear path)
    (unreachable : ¬files.Reaches path) :
    files.createDirectory path = .error .notFound := by
  have origin := (origin_eq_ok_iff files path _).mpr
    ⟨askable.noNul, askable.nonempty, askable.short, rfl⟩
  have missing : ∃ location ∈ files.before path, files.entry? location ≠ some .directory := by
    by_contra present
    push Not at present
    exact unreachable ⟨askable, present⟩
  have stops := walk_eq_notFound
    (fun location member => clear location (List.mem_append_left _ member)) askable.names missing
  rw [createDirectory, locate, origin]
  simp only [bind, Except.bind, stops]

theorem askable_of_isParent
    {path parent : String}
    (isParent : Path.IsParent path parent)
    (nonempty : parent ≠ "")
    (askable : Askable path) :
    Askable parent := by
  obtain ⟨dots, name, parts⟩ := isParent.parts
  obtain ⟨rest, characters⟩ := isParent.begins
  have whole : path = parent ++ String.ofList rest := by
    apply String.toList_injective
    simp [← characters]
  refine ⟨?_, nonempty, ?_, ?_⟩
  · exact fun nul => askable.noNul (isParent.begins.subset nul)
  · have short := askable.short
    rw [whole, String.utf8ByteSize_append] at short
    omega
  · intro part member
    exact askable.names part (by simp [parts, member])

theorem clear_of_isParent
    {files : Files}
    {path parent : String}
    (isParent : Path.IsParent path parent)
    (clear : files.Clear path) :
    files.Clear parent :=
  fun location member => clear location (way_subset_of_isParent isParent files member)

theorem start_of_isParent
    {path parent : String}
    (isParent : Path.IsParent path parent)
    (files : Files) :
    files.start parent = files.start path := by
  rw [start, isParent.isAbsolute, start]

/-- A path without parts before its last name has nothing but its start before
it. -/
theorem reaches_root
    {files : Files}
    (askable : Askable "/") :
    files.Reaches "/" := by
  refine ⟨askable, ?_⟩
  have parts : Path.parts "/" = [] := by decide
  rw [before, parts]
  simp [passed]

theorem leads_empty
    {files : Files}
    (hasStart : files.entry? (files.start "") = some .directory) :
    files.Leads "" := by
  have parts : Path.parts "" = [] := by decide
  rw [Leads, way, before, place, parts]
  simpa [passed] using hasStart

/-- The directory above a path, once it is there, leads to the path. -/
theorem ensureDirectory_of_parent
    {files made : Files}
    {path parent : String}
    (isParent : Path.IsParent path parent)
    (askable : Askable path)
    (clear : files.Clear path)
    (grows : Grows (files.way parent) files made)
    (leads : made.Leads parent) :
    ∃ latest, made.ensureDirectory path = (.ok (), latest) := by
  refine ensureDirectory_of_reaches ⟨askable, fun location member => ?_⟩
    (none_or_directory_of_ne_file (grows.clear clear _ (place_mem_way made path)))
  exact leads location ((mem_before_of_isParent isParent made location).mp member)

/-- Where no file stands on the way of a path, its directory can be created with
those above it. -/
theorem ensureDirectoriesUpTo_of_clear
    {steps : Nat}
    {files : Files}
    {path : String}
    (enough : path.length < steps)
    (isCleaned : Path.IsCleaned path)
    (askable : Askable path)
    (hasStart : files.entry? (files.start path) = some .directory)
    (clear : files.Clear path) :
    ∃ made, files.ensureDirectoriesUpTo steps path = (.ok (), made) := by
  induction steps generalizing path with
  | zero => exact absurd enough (Nat.not_lt_zero _)
  | succ steps inductionHypothesis =>
      by_cases reaches : files.Reaches path
      · exact ensureDirectoriesUpTo_of_reaches reaches
          (none_or_directory_of_ne_file (clear _ (place_mem_way files path))) _
      have notRoot : path ≠ "/" := by
        rintro rfl
        exact reaches (reaches_root askable)
      obtain ⟨parent, found, isParent⟩ :=
        Path.exists_isParent_of_isCleaned isCleaned askable.nonempty notRoot
      have above : ∃ made, files.ensureDirectoriesUpTo steps parent = (.ok (), made)
          ∧ made.Leads parent := by
        by_cases empty : parent = ""
        · subst empty
          rw [← start_of_isParent isParent] at hasStart
          obtain ⟨more, rfl⟩ : ∃ more, steps = more + 1 :=
            Nat.exists_eq_succ_of_ne_zero (by have := isParent.shorter; omega)
          exact ⟨files, rfl, leads_empty hasStart⟩
        · obtain ⟨made, ensured⟩ := inductionHypothesis
            (Nat.lt_of_lt_of_le isParent.shorter (Nat.le_of_lt_succ enough)) isParent.isCleaned
            (askable_of_isParent isParent empty askable)
            (by rwa [start_of_isParent isParent]) (clear_of_isParent isParent clear)
          exact ⟨made, ensured,
            leads_of_isDirectory (isDirectory_of_ensureDirectoriesUpTo empty ensured)⟩
      obtain ⟨made, ensured, leads⟩ := above
      have grows := ensureDirectoriesUpTo_grows steps files isParent.isCleaned
      rw [ensured] at grows
      rw [ensureDirectoriesUpTo, if_neg (by simpa using askable.nonempty),
        createDirectory_eq_notFound askable clear reaches]
      simp only [found, ensured]
      exact ensureDirectory_of_parent isParent askable clear grows leads

end ReportIndex.Files
