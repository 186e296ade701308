import ReportIndex.Proofs.Command.Run
import ReportIndex.Proofs.Command.Versions

/-!
Contract: writing all pages of a site.

Owns:
- the page without a version, and the directories that it needs;
- reading the pages back, and the files that are none of them;
- the independence of the order and of the repetition of versions;
- the runs that end well with all pages written.

Does not own: when the pages can be written.
-/

namespace ReportIndex.Command

/-! ## The page without a version -/

/-- The later file system has a page in a directory, and maybe further
directories on the way to it. -/
structure HasRootPage (directory html : String) (earlier later : Files) : Prop where
  askable : Files.Askable (Path.join directory pageName)
  leads : later.Leads directory
  workingDirectory : later.workingDirectory = earlier.workingDirectory
  page : later.entry? (earlier.place directory ++ [pageName]) = some (.file html.toUTF8)
  free : earlier.entry? (earlier.place directory ++ [pageName]) ≠ some .directory
  elsewhere :
    ∀ location, location ≠ earlier.place directory ++ [pageName] →
      later.entry? location = earlier.entry? location
        ∨ (location ∈ earlier.way directory ∧ earlier.entry? location = none
            ∧ later.entry? location = some .directory)

theorem HasRootPage.keeps
    {directory html : String}
    {earlier later : Files}
    (hasRoot : HasRootPage directory html earlier later) :
    Files.Keeps earlier later := by
  refine ⟨hasRoot.workingDirectory, fun location isDirectory => ?_⟩
  by_cases isPage : location = earlier.place directory ++ [pageName]
  · exact absurd (isPage ▸ isDirectory) hasRoot.free
  · rcases hasRoot.elsewhere location isPage with same | ⟨_, missing, _⟩
    · rw [same, isDirectory]
    · rw [missing] at isDirectory
      cases isDirectory

theorem HasRootPage.place
    {directory html : String}
    {earlier later : Files}
    (hasRoot : HasRootPage directory html earlier later)
    (path : String) :
    later.place path = earlier.place path :=
  hasRoot.keeps.place path

theorem hasRootPage_of_pageOutcome
    {directory html : String}
    {earlier later : Files}
    (outcome : pageOutcome earlier (Path.join directory pageName) html = (.ok (), later)) :
    HasRootPage directory html earlier later := by
  obtain ⟨made, ensured, wrote⟩ := (pageOutcome_eq_ok _ _ _ _).mp outcome
  rw [Path.parent?_join isName_pageName, Option.getD_some] at ensured
  have grows := Files.grows_of_ensureDirectories (Path.isCleaned_cleaned directory) ensured
  have keeps := Files.keeps_of_write wrote
  obtain ⟨reaches, _, notDirectory, rfl⟩ := Files.write_eq_ok wrote
  obtain ⟨askable, leads⟩ := (Files.reaches_join isName_pageName made directory).mp reaches
  have place : made.place (Path.join directory pageName) =
      earlier.place directory ++ [pageName] := by
    rw [Files.place_join isName_pageName, grows.keeps.place]
  rw [place] at notDirectory keeps ⊢
  have stored := Files.put_apply made
    (by simp : earlier.place directory ++ [pageName] ≠ []) (.file html.toUTF8)
  refine ⟨askable, keeps.leads leads, grows.workingDirectory, ?_, ?_, ?_⟩
  · rw [stored, if_pos rfl]
  · rwa [← grows.unchanged_of_ne_directory notDirectory]
  · intro location different
    rw [stored, if_neg different]
    refine (grows.entries location).imp_right fun ⟨member, rest⟩ => ⟨?_, rest⟩
    rwa [← Files.mem_way_cleaned]

/-! ## All pages -/

section

variable
  {directory rootHtml : String}
  {html : String → String}
  {names : List String}
  {earlier middle later : Files}

/-- A name of a version with room for its page is not that of the first page. -/
theorem Room.ne_pageName
    {name : String}
    (room : Room middle directory name)
    (hasRoot : HasRootPage directory rootHtml earlier middle) :
    name ≠ pageName := by
  rintro rfl
  have free := room.directoryFree
  rw [directoryPlace, hasRoot.place, hasRoot.page] at free
  simp at free

end

/-- The pages of a site have been written: first the one without a version, then
those of the versions. -/
structure Written
    (directory rootHtml : String)
    (html : String → String)
    (names : List String)
    (earlier middle later : Files) : Prop where
  isNames : ∀ name ∈ names, Path.IsName name
  rootOutcome :
    pageOutcome earlier (Path.join directory pageName) rootHtml = (.ok (), middle)
  hasRoot : HasRootPage directory rootHtml earlier middle
  rooms : ∀ name ∈ names, Room middle directory name
  hasPages : HasPages directory html middle later names

theorem exists_written_of_pagesOutcome
    {directory rootHtml : String}
    {html : String → String}
    {names : List String}
    {earlier later : Files}
    (isNames : ∀ name ∈ names, Path.IsName name)
    (outcome : pagesOutcome earlier
      (sitePages directory rootHtml html names) =
        (.ok (), later)) :
    ∃ middle, Written directory rootHtml html names earlier middle later := by
  rw [sitePages, pagesOutcome_cons] at outcome
  split at outcome
  next => cases outcome
  next middle wrote =>
    have hasRoot := hasRootPage_of_pageOutcome wrote
    obtain ⟨rooms, hasPages⟩ := hasPages_of_pagesOutcome isNames hasRoot.leads outcome
    exact ⟨middle, isNames, wrote, hasRoot, rooms, hasPages⟩

namespace Written

variable
  {directory rootHtml : String}
  {html : String → String}
  {names : List String}
  {earlier middle later : Files}
  (written : Written directory rootHtml html names earlier middle later)

include written

theorem keeps : Files.Keeps earlier later :=
  written.hasRoot.keeps.trans (written.hasPages.keeps written.rooms)

theorem leads : later.Leads directory :=
  (written.hasPages.keeps written.rooms).leads written.hasRoot.leads

theorem pageName_not_mem : pageName ∉ names :=
  fun member => (written.rooms pageName member).ne_pageName written.hasRoot rfl

theorem read_rootPage : later.read (Path.join directory pageName) = .ok rootHtml.toUTF8 := by
  refine (Files.read_eq_ok _ _ _).mpr ⟨?_, ?_, Path.endsInSlash_join isName_pageName directory⟩
  · exact (Files.reaches_join isName_pageName later directory).mpr
      ⟨written.hasRoot.askable, written.leads⟩
  · rw [Files.place_join isName_pageName, written.keeps.place, written.hasPages.elsewhere,
      written.hasRoot.page]
    intro name member
    have different : pageName ≠ name := fun same => written.pageName_not_mem (same ▸ member)
    rw [directoryPlace, pagePlace, written.hasRoot.place]
    exact ⟨by simpa using different, by simp⟩

theorem read_versionPage
    {name : String}
    (member : name ∈ names) :
    later.read (Path.join (Path.join directory name) pageName) = .ok (html name).toUTF8 := by
  have isName := written.isNames name member
  have hasPages := written.hasPages
  refine (Files.read_eq_ok _ _ _).mpr ⟨?_, ?_, Path.endsInSlash_join isName_pageName _⟩
  · refine (Files.reaches_join isName_pageName later _).mpr
      ⟨(written.rooms name member).pageAskable, fun location inWay => ?_⟩
    rw [Files.way, Files.before_join isName, place_directory isName, hasPages.directoryPlace]
      at inWay
    rcases List.mem_append.mp inWay with above | isPlace
    · exact written.leads location above
    · rw [List.mem_singleton.mp isPlace, hasPages.directories name member]
  · rw [place_page isName, hasPages.pagePlace, hasPages.pages name member]

/-- A file that is none of the pages is there afterwards exactly if it was there
before. -/
theorem file_iff_of_not_page
    {location : Location}
    (notRoot : location ≠ earlier.place directory ++ [pageName])
    (notPage : ∀ name ∈ names, location ≠ pagePlace earlier directory name)
    (content : ByteArray) :
    later.entry? location = some (.file content) ↔
      earlier.entry? location = some (.file content) := by
  have hasPages := written.hasPages
  have first : middle.entry? location = some (.file content) ↔
      earlier.entry? location = some (.file content) := by
    rcases written.hasRoot.elsewhere location notRoot with same | ⟨_, missing, isDirectory⟩
    · rw [same]
    · simp [missing, isDirectory]
  rw [← first]
  by_cases isDirectory : ∃ name ∈ names, location = directoryPlace middle directory name
  · obtain ⟨name, member, rfl⟩ := isDirectory
    rw [hasPages.directories name member]
    rcases (written.rooms name member).directoryFree with missing | present
    · simp [missing]
    · rw [present]
  · rw [hasPages.elsewhere location]
    intro name member
    refine ⟨fun same => isDirectory ⟨name, member, same⟩, ?_⟩
    rw [pagePlace, written.hasRoot.place]
    exact notPage name member

/-- With the same versions in another order, or with other repetitions, the pages
can be written too, and give the same file system. -/
theorem pagesOutcome_of_same
    {more : List String}
    (isNames : ∀ name ∈ more, Path.IsName name)
    (same : ∀ name, name ∈ more ↔ name ∈ names) :
    ∃ latest,
      pagesOutcome earlier
          (sitePages directory rootHtml html more) =
          (.ok (), latest)
        ∧ latest.SameAs later := by
  have rooms : ∀ name ∈ more, Room middle directory name :=
    fun name member => written.rooms name ((same name).mp member)
  obtain ⟨latest, outcome⟩ :=
    pagesOutcome_of_room html isNames written.hasRoot.leads rooms
  obtain ⟨_, hasPages⟩ := hasPages_of_pagesOutcome isNames written.hasRoot.leads outcome
  refine ⟨latest, ?_, ?_, ?_⟩
  · rw [sitePages, pagesOutcome_cons, written.rootOutcome]
    exact outcome
  · rw [hasPages.workingDirectory, written.hasPages.workingDirectory]
  · exact hasPages.unique written.hasPages same

end Written

/-! ## Runs -/

variable
  {request : Request}
  {arguments : RenderArguments}
  {config : Config}
  {catalog : Catalog}
  {start : Surroundings}

/-- A run that writes a site and ends well has written its pages. -/
theorem Renders.exists_written
    {final : Surroundings}
    (renders : Renders start.files request arguments config catalog)
    (unversioned : arguments.documentVersion = none)
    (several : config.versions ≠ [])
    (performed : (perform request : Simulation Nat).run start = (0, final)) :
    Path.isStandardOutput (arguments.out.getD siteName) = false
      ∧ (∀ version ∈ config.versions, Usable version)
      ∧ ∃ middle,
          Written (arguments.out.getD siteName) (arguments.html config catalog none)
            (fun name => arguments.html config catalog (some name))
            (config.versions.map Text.trim) start.files middle final.files := by
  obtain ⟨notStandard, usable, outcome⟩ :=
    (renders.perform_site_iff unversioned several final.files).mp ⟨final, performed, rfl⟩
  exact ⟨notStandard, usable, exists_written_of_pagesOutcome (isName_of_usable usable) outcome⟩

/-- A run for the same versions, in another order or with other repetitions, ends
well too, and with the same files. -/
theorem Renders.perform_of_same
    {versions : List String}
    {middle later : Files}
    (renders : Renders start.files request arguments { config with versions } catalog)
    (written : Written (arguments.out.getD siteName) (arguments.html config catalog none)
      (fun name => arguments.html config catalog (some name)) (config.versions.map Text.trim)
      start.files middle later)
    (unversioned : arguments.documentVersion = none)
    (several : config.versions ≠ [])
    (notStandard : Path.isStandardOutput (arguments.out.getD siteName) = false)
    (usable : ∀ version ∈ config.versions, Usable version)
    (same : ∀ name, name ∈ versions.map Text.trim ↔ name ∈ config.versions.map Text.trim) :
    ∃ final,
      (perform request : Simulation Nat).run start = (0, final) ∧ final.files.SameAs later := by
  have severalOther : versions ≠ [] := by
    rintro rfl
    obtain ⟨version, configured⟩ := List.exists_mem_of_ne_nil _ several
    simpa using (same _).mpr (List.mem_map_of_mem configured)
  have usableOther : ∀ version ∈ versions, Usable version := by
    intro version member
    obtain ⟨configured, member, trims⟩ :=
      List.mem_map.mp ((same _).mp (List.mem_map_of_mem member))
    have usable := usable configured member
    rwa [Usable, trims] at usable
  obtain ⟨files, outcome, sameAs⟩ :=
    written.pagesOutcome_of_same (isName_of_usable usableOther) same
  obtain ⟨final, performed, rfl⟩ := (renders.perform_site_iff unversioned severalOther files).mpr
    ⟨notStandard, usableOther, outcome⟩
  exact ⟨final, performed, sameAs⟩

end ReportIndex.Command
