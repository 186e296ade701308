import ReportIndex.Proofs.Command.Site
import ReportIndex.Proofs.Workspace.Directory

/-!
Contract: writing the pages of versions below a directory.

Owns:
- what may not stand against a version's page, as a condition on the file system
  before the first page is written;
- what the pages change, as a condition that does not depend on their order;
- both for one version, and from that for any list of versions.

Does not own: the page without a version.
-/

namespace ReportIndex.Command

/-! ## One page -/

/-- The place of a version's directory. -/
def directoryPlace (files : Files) (directory name : String) : Location :=
  files.place directory ++ [name]

/-- The place of a version's page. -/
def pagePlace (files : Files) (directory name : String) : Location :=
  files.place directory ++ [name, pageName]

/-- Nothing stands against a version's page: its path can be asked for, there is
no file where its directory goes, and no directory where it goes. -/
structure Room (files : Files) (directory name : String) : Prop where
  directoryAskable : Files.Askable (Path.join directory name)
  pageAskable : Files.Askable (Path.join (Path.join directory name) pageName)
  directoryFree :
    files.entry? (directoryPlace files directory name) = none
      ∨ files.entry? (directoryPlace files directory name) = some .directory
  pageFree : files.entry? (pagePlace files directory name) ≠ some .directory

section

variable (directory : String) (html : String → String)

/-- The later file system has the pages of some versions, and the directories for
them; everything else is as it was. -/
structure HasPages (earlier later : Files) (names : List String) : Prop where
  workingDirectory : later.workingDirectory = earlier.workingDirectory
  pages :
    ∀ name ∈ names,
      later.entry? (pagePlace earlier directory name) = some (.file (html name).toUTF8)
  directories :
    ∀ name ∈ names, later.entry? (directoryPlace earlier directory name) = some .directory
  elsewhere :
    ∀ location,
      (∀ name ∈ names, location ≠ directoryPlace earlier directory name
        ∧ location ≠ pagePlace earlier directory name) →
      later.entry? location = earlier.entry? location

end

variable {directory : String} {html : String → String} {earlier later latest : Files}

theorem directoryPlace_injective {name other : String}
    (same : directoryPlace earlier directory name = directoryPlace earlier directory other) :
    name = other := by
  simpa [directoryPlace] using same

theorem pagePlace_injective {name other : String}
    (same : pagePlace earlier directory name = pagePlace earlier directory other) :
    name = other := by
  simpa [pagePlace] using same

theorem directoryPlace_ne_pagePlace (name other : String) :
    directoryPlace earlier directory name ≠ pagePlace earlier directory other := by
  simp [directoryPlace, pagePlace]

theorem pagePlace_ne_nil (files : Files) (directory name : String) :
    pagePlace files directory name ≠ [] := by
  simp [pagePlace]

theorem HasPages.refl (files : Files) : HasPages directory html files files [] :=
  ⟨rfl, by simp, by simp, fun _ _ => rfl⟩

theorem HasPages.place
    {names : List String}
    (hasPages : HasPages directory html earlier later names)
    (path : String) :
    later.place path = earlier.place path := by
  rw [Files.place, Files.start, hasPages.workingDirectory]
  rfl

section

variable {name : String} (isName : Path.IsName name) (files : Files) (directory : String)

include isName

theorem place_directory : files.place (Path.join directory name) = directoryPlace files directory name :=
  Files.place_join isName files directory

theorem place_page :
    files.place (Path.join (Path.join directory name) pageName) = pagePlace files directory name := by
  rw [Files.place_join isName_pageName, Files.place_join isName, List.append_assoc]
  rfl

theorem parent?_page :
    Path.parent? (Path.join (Path.join directory name) pageName) = some (Path.join directory name) := by
  rw [Path.parent?_join isName_pageName, Path.cleaned_join isName]

end

/-- Where a path leads to a directory, creating a directory in it changes one
place. -/
theorem unchanged_of_grows
    {name : String}
    (isName : Path.IsName name)
    (leads : earlier.Leads directory)
    (grows : Files.Grows (earlier.way (Path.join directory name)) earlier later)
    (location : Location)
    (different : location ≠ directoryPlace earlier directory name) :
    later.entry? location = earlier.entry? location := by
  refine (grows.entries location).resolve_right ?_
  rintro ⟨member, missing, _⟩
  rw [Files.way, Files.before_join isName, place_directory isName] at member
  rcases List.mem_append.mp member with inWay | isPlace
  · rw [leads location inWay] at missing
    cases missing
  · exact different (List.mem_singleton.mp isPlace)

/-- What a version's page needs, and what it changes. -/
theorem hasPages_of_pageOutcome
    {name : String}
    (isName : Path.IsName name)
    (leads : earlier.Leads directory)
    (outcome : pageOutcome earlier (Path.join (Path.join directory name) pageName) (html name) =
      (.ok (), later)) :
    Room earlier directory name ∧ HasPages directory html earlier later [name] := by
  obtain ⟨made, ensured, wrote⟩ := (pageOutcome_eq_ok _ _ _ _).mp outcome
  rw [parent?_page isName, Option.getD_some] at ensured
  have grows := Files.grows_of_ensureDirectories (isName.isCleaned_join directory) ensured
  have isDirectory := Files.isDirectory_of_ensureDirectories
    (Path.join_ne_empty isName directory) ensured
  obtain ⟨reachesDirectory, isDirectory⟩ := (Files.isDirectory_eq_true made _).mp isDirectory
  obtain ⟨reachesPage, _, notDirectory, rfl⟩ := Files.write_eq_ok wrote
  rw [grows.keeps.place, place_directory isName] at isDirectory
  rw [grows.keeps.place, place_page isName] at notDirectory
  have unchanged := unchanged_of_grows isName leads grows
  have pageUnchanged := unchanged _ (directoryPlace_ne_pagePlace name name).symm
  have stored : ∀ location,
      Files.entry?
          (made.put (made.place (Path.join (Path.join directory name) pageName))
            (.file (html name).toUTF8)) location =
        if location = pagePlace earlier directory name then some (.file (html name).toUTF8)
        else made.entry? location := by
    intro location
    rw [grows.keeps.place, place_page isName]
    exact Files.put_apply made (pagePlace_ne_nil earlier directory name) _ location
  constructor
  · refine ⟨reachesDirectory.askable, reachesPage.askable, ?_, pageUnchanged ▸ notDirectory⟩
    rcases grows.entries (directoryPlace earlier directory name) with same | ⟨_, missing, _⟩
    · exact .inr (same ▸ isDirectory)
    · exact .inl missing
  · refine ⟨grows.workingDirectory, ?_, ?_, ?_⟩
    · rw [List.forall_mem_singleton, stored, if_pos rfl]
    · rw [List.forall_mem_singleton, stored, if_neg (directoryPlace_ne_pagePlace name name),
        isDirectory]
    · intro location outside
      obtain ⟨notDirectoryPlace, notPagePlace⟩ := outside name (List.mem_singleton_self name)
      rw [stored, if_neg notPagePlace, unchanged location notDirectoryPlace]

/-- A version's page is written if nothing stands against it. -/
theorem pageOutcome_of_room
    {name : String}
    (isName : Path.IsName name)
    (leads : earlier.Leads directory)
    (room : Room earlier directory name)
    (html : String) :
    ∃ later, pageOutcome earlier (Path.join (Path.join directory name) pageName) html =
      (.ok (), later) := by
  have reaches : earlier.Reaches (Path.join directory name) :=
    (Files.reaches_join isName earlier directory).mpr ⟨room.directoryAskable, leads⟩
  have directoryFree := room.directoryFree
  rw [← place_directory isName] at directoryFree
  obtain ⟨made, ensured⟩ :
      ∃ made, earlier.ensureDirectories (Path.join directory name) = (.ok (), made) :=
    Files.ensureDirectoriesUpTo_of_reaches reaches directoryFree _
  have grows := Files.grows_of_ensureDirectories (isName.isCleaned_join directory) ensured
  have leadsMade := Files.leads_of_isDirectory
    (Files.isDirectory_of_ensureDirectories (Path.join_ne_empty isName directory) ensured)
  have pageUnchanged := unchanged_of_grows isName leads grows _
    (directoryPlace_ne_pagePlace name name).symm
  have reachesPage := (Files.reaches_join isName_pageName made (Path.join directory name)).mpr
    ⟨room.pageAskable, leadsMade⟩
  have pageFree : made.entry? (made.place (Path.join (Path.join directory name) pageName)) ≠
      some .directory := by
    rw [grows.keeps.place, place_page isName, pageUnchanged]
    exact room.pageFree
  have wrote := Files.write_join isName_pageName reachesPage pageFree html.toUTF8
  refine ⟨_, (pageOutcome_eq_ok _ _ _ _).mpr ⟨made, ?_, wrote⟩⟩
  rw [parent?_page isName, Option.getD_some, ensured]

/-! ## Any number of pages -/

theorem HasPages.directoryPlace
    {names : List String}
    (hasPages : HasPages directory html earlier later names)
    (name : String) :
    directoryPlace later directory name = directoryPlace earlier directory name := by
  rw [Command.directoryPlace, hasPages.place, Command.directoryPlace]

theorem HasPages.pagePlace
    {names : List String}
    (hasPages : HasPages directory html earlier later names)
    (name : String) :
    pagePlace later directory name = pagePlace earlier directory name := by
  rw [Command.pagePlace, hasPages.place, Command.pagePlace]

theorem HasPages.unchanged_directoryPlace
    {names : List String}
    (hasPages : HasPages directory html earlier later names)
    {name : String}
    (other : name ∉ names) :
    later.entry? (Command.directoryPlace earlier directory name) =
      earlier.entry? (Command.directoryPlace earlier directory name) := by
  refine hasPages.elsewhere _ fun written member => ⟨fun same => ?_, ?_⟩
  · exact other (directoryPlace_injective same ▸ member)
  · exact directoryPlace_ne_pagePlace name written

theorem HasPages.unchanged_pagePlace
    {names : List String}
    (hasPages : HasPages directory html earlier later names)
    {name : String}
    (other : name ∉ names) :
    later.entry? (Command.pagePlace earlier directory name) =
      earlier.entry? (Command.pagePlace earlier directory name) := by
  refine hasPages.elsewhere _ fun written member => ⟨?_, fun same => ?_⟩
  · exact (directoryPlace_ne_pagePlace written name).symm
  · exact other (pagePlace_injective same ▸ member)

theorem HasPages.trans
    {names more : List String}
    (first : HasPages directory html earlier later names)
    (second : HasPages directory html later latest more) :
    HasPages directory html earlier latest (names ++ more) := by
  refine ⟨second.workingDirectory.trans first.workingDirectory, ?_, ?_, ?_⟩
  · intro name member
    rw [← first.pagePlace]
    by_cases again : name ∈ more
    · exact second.pages name again
    · have before := (List.mem_append.mp member).resolve_right again
      rw [second.unchanged_pagePlace again, first.pagePlace]
      exact first.pages name before
  · intro name member
    rw [← first.directoryPlace]
    by_cases again : name ∈ more
    · exact second.directories name again
    · have before := (List.mem_append.mp member).resolve_right again
      rw [second.unchanged_directoryPlace again, first.directoryPlace]
      exact first.directories name before
  · intro location outside
    rw [second.elsewhere location, first.elsewhere location]
    · exact fun name member => outside name (List.mem_append_left more member)
    · intro name member
      rw [first.directoryPlace, first.pagePlace]
      exact outside name (List.mem_append_right names member)

theorem Room.of_same
    {name : String}
    (room : Room earlier directory name)
    (sameDirectory :
      later.entry? (Command.directoryPlace later directory name) =
        earlier.entry? (Command.directoryPlace earlier directory name))
    (samePage :
      later.entry? (Command.pagePlace later directory name) =
        earlier.entry? (Command.pagePlace earlier directory name)) :
    Room later directory name := by
  refine ⟨room.directoryAskable, room.pageAskable, ?_, ?_⟩
  · rw [sameDirectory]
    exact room.directoryFree
  · rw [samePage]
    exact room.pageFree

/-- Pages that have been written stand against no page that comes later. -/
theorem HasPages.room_iff
    {names : List String}
    (hasPages : HasPages directory html earlier later names)
    (rooms : ∀ name ∈ names, Room earlier directory name)
    (name : String) :
    Room later directory name ↔ Room earlier directory name := by
  by_cases written : name ∈ names
  · refine ⟨fun _ => rooms name written, fun room => ?_⟩
    refine ⟨room.directoryAskable, room.pageAskable, .inr ?_, ?_⟩
    · rw [hasPages.directoryPlace, hasPages.directories name written]
    · rw [hasPages.pagePlace, hasPages.pages name written]
      simp
  · have sameDirectory : later.entry? (Command.directoryPlace later directory name) =
        earlier.entry? (Command.directoryPlace earlier directory name) := by
      rw [hasPages.directoryPlace, hasPages.unchanged_directoryPlace written]
    have samePage : later.entry? (Command.pagePlace later directory name) =
        earlier.entry? (Command.pagePlace earlier directory name) := by
      rw [hasPages.pagePlace, hasPages.unchanged_pagePlace written]
    exact ⟨fun room => room.of_same sameDirectory.symm samePage.symm,
      fun room => room.of_same sameDirectory samePage⟩

theorem HasPages.keeps
    {names : List String}
    (hasPages : HasPages directory html earlier later names)
    (rooms : ∀ name ∈ names, Room earlier directory name) :
    Files.Keeps earlier later := by
  refine ⟨hasPages.workingDirectory, fun location isDirectory => ?_⟩
  by_cases outside : ∀ name ∈ names, location ≠ Command.directoryPlace earlier directory name
      ∧ location ≠ Command.pagePlace earlier directory name
  · rw [hasPages.elsewhere location outside, isDirectory]
  · push Not at outside
    obtain ⟨name, member, inside⟩ := outside
    by_cases same : location = Command.directoryPlace earlier directory name
    · rw [same, hasPages.directories name member]
    · rw [inside same] at isDirectory
      exact absurd isDirectory (rooms name member).pageFree

/-- What the pages of a list of versions need, and what they change. -/
theorem hasPages_of_pagesOutcome
    {names : List String}
    (isNames : ∀ name ∈ names, Path.IsName name)
    (leads : earlier.Leads directory)
    (outcome : pagesOutcome earlier (versionPages directory html names) = (.ok (), later)) :
    (∀ name ∈ names, Room earlier directory name)
      ∧ HasPages directory html earlier later names := by
  induction names generalizing earlier with
  | nil =>
      cases outcome
      exact ⟨by simp, .refl _⟩
  | cons name names inductionHypothesis =>
      rw [List.forall_mem_cons] at isNames
      rw [versionPages_cons, pagesOutcome_cons] at outcome
      split at outcome
      next => cases outcome
      next written wrote =>
        obtain ⟨room, hasPage⟩ := hasPages_of_pageOutcome isNames.1 leads wrote
        have rooms : ∀ other ∈ [name], Room earlier directory other := by
          rwa [List.forall_mem_singleton]
        obtain ⟨roomsRest, hasPages⟩ :=
          inductionHypothesis isNames.2 ((hasPage.keeps rooms).leads leads) outcome
        refine ⟨?_, hasPage.trans hasPages⟩
        rw [List.forall_mem_cons]
        exact ⟨room, fun other member => (hasPage.room_iff rooms other).mp (roomsRest other member)⟩

/-- The pages of a list of versions are written if nothing stands against any of
them before the first is written. -/
theorem pagesOutcome_of_room
    (html : String → String)
    {names : List String}
    (isNames : ∀ name ∈ names, Path.IsName name)
    (leads : earlier.Leads directory)
    (rooms : ∀ name ∈ names, Room earlier directory name) :
    ∃ later, pagesOutcome earlier (versionPages directory html names) = (.ok (), later) := by
  induction names generalizing earlier with
  | nil => exact ⟨earlier, rfl⟩
  | cons name names inductionHypothesis =>
      rw [List.forall_mem_cons] at isNames rooms
      obtain ⟨written, wrote⟩ := pageOutcome_of_room isNames.1 leads rooms.1 (html name)
      obtain ⟨room, hasPage⟩ := hasPages_of_pageOutcome isNames.1 leads wrote
      have roomsFirst : ∀ other ∈ [name], Room earlier directory other := by
        rwa [List.forall_mem_singleton]
      obtain ⟨later, rest⟩ := inductionHypothesis isNames.2
        ((hasPage.keeps roomsFirst).leads leads)
        fun other member => (hasPage.room_iff roomsFirst other).mpr (rooms.2 other member)
      refine ⟨later, ?_⟩
      rw [versionPages_cons, pagesOutcome_cons, wrote]
      exact rest

/-- The pages determine the file system, whatever the order in which they have
been written, and however often. -/
theorem HasPages.unique
    {names more : List String}
    (first : HasPages directory html earlier later names)
    (second : HasPages directory html earlier latest more)
    (same : ∀ name, name ∈ names ↔ name ∈ more)
    (location : Location) :
    later.entry? location = latest.entry? location := by
  by_cases outside : ∀ name ∈ names, location ≠ Command.directoryPlace earlier directory name
      ∧ location ≠ Command.pagePlace earlier directory name
  · rw [first.elsewhere location outside, second.elsewhere location]
    exact fun name member => outside name ((same name).mpr member)
  · push Not at outside
    obtain ⟨name, member, inside⟩ := outside
    by_cases isPlace : location = Command.directoryPlace earlier directory name
    · rw [isPlace, first.directories name member,
        second.directories name ((same name).mp member)]
    · rw [inside isPlace, first.pages name member, second.pages name ((same name).mp member)]

end ReportIndex.Command
