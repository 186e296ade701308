import ReportIndex.Proofs.Workspace.Walk

/-!
Contract: the paths above a path.

Owns:
- the paths that taking the parent again and again leads to;
- the paths above a joined path and above a cleaned one;
- where they are: in the tree above the path, unless the path itself goes up.

Does not own: whether anything is at them.
-/

namespace ReportIndex

namespace Path

/-- A path is its own ancestor, and so are those of its parent. -/
inductive IsAncestor : String → String → Prop where
  | self (path : String) : IsAncestor path path
  | above
      {ancestor parent path : String}
      (found : parent? path = some parent)
      (isAncestor : IsAncestor ancestor parent) :
      IsAncestor ancestor path

/-- Slashes and single dots at the end of a directory's path do not change its
parent. -/
theorem parent?_cleaned (directory : String) : parent? (cleaned directory) = parent? directory := by
  have sameEnd : dropTail (leadOf directory).reverse = dropTail directory.toList.reverse := by
    rcases leadOf_cases directory with ⟨rfl, lead⟩ | ⟨front, characters, lead⟩ | ⟨nonempty, lead⟩
    · rw [lead]
      rfl
    · rw [lead, characters]
    · rw [lead, List.reverse_concat, dropTail.eq_2 _ (by simpa using nonempty)]
  rw [parent?, isCleaned_cleaned, cleaned, cleanedLead, String.toList_ofList, List.reverse_reverse,
    sameEnd, parent?]

theorem IsAncestor.of_cleaned
    {ancestor directory : String}
    (isAncestor : IsAncestor ancestor (cleaned directory)) :
    ancestor = cleaned directory ∨ IsAncestor ancestor directory := by
  cases isAncestor with
  | self => exact .inl rfl
  | above found further =>
      rw [parent?_cleaned] at found
      exact .inr (.above found further)

/-- Above a joined path is what is above its directory. -/
theorem IsAncestor.of_join
    {ancestor directory name : String}
    (isName : IsName name)
    (isAncestor : IsAncestor ancestor (join directory name)) :
    ancestor = join directory name ∨ ancestor = cleaned directory
      ∨ IsAncestor ancestor directory := by
  cases isAncestor with
  | self => exact .inl rfl
  | above found further =>
      rw [parent?_join isName, Option.some.injEq] at found
      subst found
      exact .inr further.of_cleaned

end Path

namespace Files

/-- A part that does not go up leads no further up. -/
theorem prefix_step
    {part : String}
    (notAbove : part ≠ "..")
    (location : Location) :
    location <+: step location part := by
  rw [step, if_neg notAbove]
  split
  · exact List.prefix_rfl
  · exact List.prefix_append location [part]

theorem prefix_foldl_step
    {parts : List String}
    (notAbove : ".." ∉ parts)
    (location : Location) :
    location <+: parts.foldl step location := by
  induction parts generalizing location with
  | nil => exact List.prefix_rfl
  | cons part parts inductionHypothesis =>
      rw [List.mem_cons, not_or] at notAbove
      exact (prefix_step (Ne.symm notAbove.1) location).trans
        (inductionHypothesis notAbove.2 (step location part))

/-- The parent of a path that does not go up is above it in the tree, and does not
go up either. -/
theorem prefix_of_parent
    {path parent : String}
    (found : Path.parent? path = some parent)
    (notAbove : ".." ∉ Path.parts path)
    (files : Files) :
    files.place parent <+: files.place path ∧ ".." ∉ Path.parts parent := by
  rw [← Path.parent?_cleaned] at found
  have isParent := (Path.isCleaned_cleaned path).isParent found
  obtain ⟨_, cleanedParts⟩ := Path.parts_cleaned path
  obtain ⟨dots, name, parentParts⟩ := isParent.parts
  have sameStart : files.start parent = files.start (Path.cleaned path) := by
    rw [start, isParent.isAbsolute, start]
  simp only [cleanedParts, parentParts, List.mem_append, not_or] at notAbove
  obtain ⟨⟨⟨parentNotAbove, dotsNotAbove⟩, nameNotAbove⟩, _⟩ := notAbove
  refine ⟨?_, parentNotAbove⟩
  rw [← place_cleaned files path, place, place, sameStart, parentParts, List.append_assoc,
    List.foldl_append]
  refine prefix_foldl_step ?_ _
  rw [List.mem_append, not_or]
  exact ⟨dotsNotAbove, nameNotAbove⟩

/-- The ancestors of a path that does not go up are above it in the tree. -/
theorem prefix_of_isAncestor
    {ancestor path : String}
    (isAncestor : Path.IsAncestor ancestor path)
    (notAbove : ".." ∉ Path.parts path)
    (files : Files) :
    files.place ancestor <+: files.place path := by
  induction isAncestor with
  | self => exact List.prefix_rfl
  | above found _ inductionHypothesis =>
      obtain ⟨isPrefix, parentNotAbove⟩ := prefix_of_parent found notAbove files
      exact (inductionHypothesis parentNotAbove).trans isPrefix

end Files

end ReportIndex
