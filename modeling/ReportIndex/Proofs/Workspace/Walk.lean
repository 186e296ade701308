import Mathlib.Data.List.Basic
import ReportIndex.Proofs.Lookup
import ReportIndex.Proofs.Workspace.Path
import ReportIndex.Workspace.Files

/-!
Contract: which place a path leads to, and what must be there on its way.

Owns:
- the places on the way of a path, found from its text alone;
- walking a path succeeds exactly when these are directories;
- directories that stay, and the paths that therefore still lead somewhere.

Does not own: operations that change a file system.
-/

namespace ReportIndex.Files

/-! ## What is where -/

theorem ne_nil_of_ne_directory
    {files : Files}
    {location : Location}
    (notDirectory : files.entry? location ≠ some .directory) :
    location ≠ [] := by
  rintro rfl
  exact notDirectory rfl

/-- Putting an entry changes what is at its own location only. The root stays a
directory. -/
theorem put_apply
    (files : Files)
    {location : Location}
    (notRoot : location ≠ [])
    (entry : Entry)
    (other : Location) :
    Files.entry? (files.put location entry) other =
      if other = location then some entry else files.entry? other := by
  unfold entry? put
  by_cases same : other = location
  · subst same
    simp [notRoot]
  · rw [if_neg same, List.lookup_cons, beq_false_of_ne same]
    simp only [lookup_filter_ne _ same]

@[simp] theorem workingDirectory_put (files : Files) (location : Location) (entry : Entry) :
    (files.put location entry).workingDirectory = files.workingDirectory := rfl

/-- File systems that cannot be told apart by what is at a path. -/
structure SameAs (first second : Files) : Prop where
  workingDirectory : first.workingDirectory = second.workingDirectory
  entries : ∀ location, first.entry? location = second.entry? location

/-! ## The way of a path -/

/-- The place that one part of a path leads to. -/
def step (location : Location) (part : String) : Location :=
  if part = "." then location
  else if part = ".." then location.dropLast
  else location ++ [part]

/-- The places that a walk leaves again. -/
def passed : Location → List String → List Location
  | _, [] => []
  | location, part :: parts => location :: passed (step location part) parts

/-- The place that a path begins at. -/
def start (files : Files) (path : String) : Location :=
  if Path.isAbsolute path then [] else files.workingDirectory

/-- The place that a path names, whatever is there. -/
def place (files : Files) (path : String) : Location :=
  (Path.parts path).foldl step (files.start path)

/-- The places before the one that a path names. -/
def before (files : Files) (path : String) : List Location :=
  passed (files.start path) (Path.parts path)

/-- All places that a path runs through, up to the one that it names. -/
def way (files : Files) (path : String) : List Location :=
  files.before path ++ [files.place path]

theorem passed_append (location : Location) (front back : List String) :
    passed location (front ++ back) =
      passed location front ++ passed (front.foldl step location) back := by
  induction front generalizing location with
  | nil => rfl
  | cons part front inductionHypothesis =>
      rw [List.cons_append, passed, passed, inductionHypothesis, List.foldl_cons, List.cons_append]

/-- The first step of a walk that begins at a directory. -/
theorem walk_cons_of_directory
    {files : Files}
    {location : Location}
    (isDirectory : files.entry? location = some .directory)
    (part : String)
    (parts : List String) :
    files.walk location (part :: parts) =
      if longestName < part.utf8ByteSize then .error .nameTooLong
      else files.walk (step location part) parts := by
  rw [walk, isDirectory, step]
  by_cases here : part = "."
  · subst here
    rfl
  · by_cases above : part = ".."
    · subst above
      rfl
    · simp only [if_neg here, if_neg above]

theorem walk_eq_ok_iff
    (files : Files)
    (start goal : Location)
    (parts : List String) :
    files.walk start parts = .ok goal ↔
      (∀ location ∈ passed start parts, files.entry? location = some .directory)
        ∧ (∀ part ∈ parts, part.utf8ByteSize ≤ longestName)
        ∧ goal = parts.foldl step start := by
  induction parts generalizing start with
  | nil => simp [walk, passed, eq_comm]
  | cons part parts inductionHypothesis =>
      rw [passed, List.forall_mem_cons, List.forall_mem_cons, List.foldl_cons]
      by_cases isDirectory : files.entry? start = some .directory
      · rw [walk_cons_of_directory isDirectory]
        by_cases fits : part.utf8ByteSize ≤ longestName
        · rw [if_neg (Nat.not_lt.mpr fits), inductionHypothesis]
          simp only [isDirectory, fits, true_and]
        · rw [if_pos (Nat.lt_of_not_le fits)]
          simp [fits]
      · rw [walk]
        cases found : files.entry? start with
        | none => simp
        | some entry =>
            cases entry with
            | file content => simp
            | directory => exact absurd found isDirectory

/-! ## Paths that can be asked for -/

/-- The limits on a path's text. -/
structure Askable (path : String) : Prop where
  noNul : '\x00' ∉ path.toList
  nonempty : path ≠ ""
  short : path.utf8ByteSize ≤ longestPath
  names : ∀ part ∈ Path.parts path, part.utf8ByteSize ≤ longestName

instance (path : String) : Decidable (Askable path) :=
  decidable_of_iff
    ('\x00' ∉ path.toList ∧ path ≠ "" ∧ path.utf8ByteSize ≤ longestPath
      ∧ ∀ part ∈ Path.parts path, part.utf8ByteSize ≤ longestName)
    ⟨fun ⟨noNul, nonempty, short, names⟩ => ⟨noNul, nonempty, short, names⟩,
      fun askable => ⟨askable.noNul, askable.nonempty, askable.short, askable.names⟩⟩

theorem origin_eq_ok_iff (files : Files) (path : String) (location : Location) :
    files.origin path = .ok location ↔
      '\x00' ∉ path.toList ∧ path ≠ "" ∧ path.utf8ByteSize ≤ longestPath
        ∧ location = files.start path := by
  rw [origin, ← start]
  split
  next nul => simp [List.contains_iff_mem.mp nul]
  next noNul =>
    have noNul : '\x00' ∉ path.toList := fun member => noNul (List.contains_iff_mem.mpr member)
    split
    next empty => simp [String.isEmpty_iff.mp empty]
    next nonempty =>
      have nonempty : path ≠ "" := fun empty => nonempty (String.isEmpty_iff.mpr empty)
      split
      next long => simp [Nat.not_le.mpr long]
      next short => simp [noNul, nonempty, Nat.not_lt.mp short, eq_comm]

/-- A path leads to the place that it names exactly if it can be asked for, and
the places before that are directories. -/
theorem locate_eq_ok_iff (files : Files) (path : String) (location : Location) :
    files.locate path = .ok location ↔
      Askable path ∧ (∀ earlier ∈ files.before path, files.entry? earlier = some .directory)
        ∧ location = files.place path := by
  rw [locate]
  constructor
  · intro located
    cases origin : files.origin path with
    | error error =>
        rw [origin] at located
        cases located
    | ok start =>
        rw [origin] at located
        obtain ⟨noNul, nonempty, short, rfl⟩ := (origin_eq_ok_iff files path start).mp origin
        obtain ⟨directories, names, goal⟩ := (walk_eq_ok_iff files _ _ _).mp located
        exact ⟨⟨noNul, nonempty, short, names⟩, directories, goal⟩
  · rintro ⟨askable, directories, rfl⟩
    have origin := (origin_eq_ok_iff files path _).mpr
      ⟨askable.noNul, askable.nonempty, askable.short, rfl⟩
    rw [origin]
    exact (walk_eq_ok_iff files _ _ _).mpr ⟨directories, askable.names, rfl⟩

/-! ## Joined and cleaned paths -/

section

variable {name : String} (isName : Path.IsName name) (files : Files) (directory : String)

include isName

theorem start_join : files.start (Path.join directory name) = files.start directory := by
  rw [start, Path.isAbsolute_join isName, start]

theorem place_join :
    files.place (Path.join directory name) = files.place directory ++ [name] := by
  rw [place, start_join isName, Path.parts_join isName, List.foldl_concat, place, step,
    if_neg isName.notHere, if_neg isName.notAbove]

theorem before_join : files.before (Path.join directory name) = files.way directory := by
  rw [before, start_join isName, Path.parts_join isName, passed_append, way, before, place]
  rfl

end

theorem foldl_step_dots (location : Location) (dots : Nat) :
    (List.replicate dots ".").foldl step location = location := by
  induction dots with
  | zero => rfl
  | succ dots inductionHypothesis => exact inductionHypothesis

theorem passed_dots (location : Location) (dots : Nat) :
    passed location (List.replicate dots ".") = List.replicate dots location := by
  induction dots with
  | zero => rfl
  | succ dots inductionHypothesis =>
      rw [List.replicate_succ, passed, List.replicate_succ]
      exact congrArg (location :: ·) inductionHypothesis

theorem start_cleaned (files : Files) (directory : String) :
    files.start (Path.cleaned directory) = files.start directory := by
  rw [start, Path.isAbsolute_cleaned, start]

theorem place_cleaned (files : Files) (directory : String) :
    files.place (Path.cleaned directory) = files.place directory := by
  obtain ⟨dots, parts⟩ := Path.parts_cleaned directory
  rw [place, place, start_cleaned, parts, List.foldl_append, foldl_step_dots]

theorem mem_way_cleaned (files : Files) (directory : String) (location : Location) :
    location ∈ files.way (Path.cleaned directory) ↔ location ∈ files.way directory := by
  obtain ⟨dots, parts⟩ := Path.parts_cleaned directory
  rw [way, way, place_cleaned, before, before, start_cleaned, parts, passed_append, passed_dots]
  have goal : files.place directory =
      (Path.parts (Path.cleaned directory)).foldl step (files.start directory) := by
    rw [← place_cleaned, place, start_cleaned]
  rw [← goal]
  simp only [List.mem_append, List.mem_singleton, List.mem_replicate]
  tauto

/-! ## Directories that stay -/

/-- A path leads to a directory. -/
def Leads (files : Files) (directory : String) : Prop :=
  ∀ location ∈ files.way directory, files.entry? location = some .directory

/-- The later file system has all directories of the earlier one. -/
structure Keeps (earlier later : Files) : Prop where
  workingDirectory : later.workingDirectory = earlier.workingDirectory
  directories :
    ∀ location, earlier.entry? location = some .directory → later.entry? location = some .directory

namespace Keeps

variable {earlier later latest : Files}

theorem refl (files : Files) : Keeps files files :=
  ⟨rfl, fun _ isDirectory => isDirectory⟩

theorem trans (first : Keeps earlier later) (second : Keeps later latest) :
    Keeps earlier latest :=
  ⟨second.workingDirectory.trans first.workingDirectory,
    fun location isDirectory => second.directories location (first.directories location isDirectory)⟩

theorem start (keeps : Keeps earlier later) (path : String) :
    later.start path = earlier.start path := by
  rw [Files.start, keeps.workingDirectory, Files.start]

theorem place (keeps : Keeps earlier later) (path : String) :
    later.place path = earlier.place path := by
  rw [Files.place, keeps.start, Files.place]

theorem before (keeps : Keeps earlier later) (path : String) :
    later.before path = earlier.before path := by
  rw [Files.before, keeps.start, Files.before]

theorem way (keeps : Keeps earlier later) (path : String) :
    later.way path = earlier.way path := by
  rw [Files.way, keeps.before, keeps.place, Files.way]

theorem leads
    (keeps : Keeps earlier later)
    {directory : String}
    (leads : earlier.Leads directory) :
    later.Leads directory := by
  intro location member
  rw [keeps.way] at member
  exact keeps.directories location (leads location member)

end Keeps

end ReportIndex.Files
