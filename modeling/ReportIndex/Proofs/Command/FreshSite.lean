import Mathlib
import ReportIndex.Proofs.Command.SitePages
import ReportIndex.Proofs.Workspace.Clear

/-!
Contract: writing a site into a directory that is not there yet.

Owns:
- the exact condition under which all pages can be written;
- a small workspace that meets it, but for the names of the versions.

Does not own: what the pages hold.
-/

namespace ReportIndex.Command

/-- A path for a directory that is not there: the path begins at a directory, and
neither at its place nor below that is anything. -/
structure Fresh (files : Files) (directory : String) : Prop where
  hasStart : files.entry? (files.start directory) = some .directory
  nothing : ∀ below, files.entry? (files.place directory ++ below) = none

/-- The paths of a site's pages keep within the limits on paths. -/
structure Fits (directory : String) (names : List String) : Prop where
  rootPage : Files.Askable (Path.join directory pageName)
  versionPage : ∀ name ∈ names, Files.Askable (Path.join (Path.join directory name) pageName)

instance (directory : String) (names : List String) : Decidable (Fits directory names) :=
  decidable_of_iff
    (Files.Askable (Path.join directory pageName)
      ∧ ∀ name ∈ names, Files.Askable (Path.join (Path.join directory name) pageName))
    ⟨fun ⟨rootPage, versionPage⟩ => ⟨rootPage, versionPage⟩,
      fun fits => ⟨fits.rootPage, fits.versionPage⟩⟩

/-- No page's place is also on the way of the site's directory. -/
def WayAvoidsPages (files : Files) (directory : String) (names : List String) : Prop :=
  ∀ location ∈ files.way directory,
    location ≠ files.place directory ++ [pageName]
      ∧ ∀ name ∈ names, location ≠ pagePlace files directory name

instance (files : Files) (directory : String) (names : List String) :
    Decidable (WayAvoidsPages files directory names) := by
  unfold WayAvoidsPages
  infer_instance

variable
  {directory rootHtml : String}
  {html : String → String}
  {names : List String}
  {files middle later : Files}

theorem isParent_page (directory : String) :
    Path.IsParent (Path.join directory pageName) (Path.cleaned directory) :=
  (isName_pageName.isCleaned_join directory).isParent (Path.parent?_join isName_pageName directory)

/-- A site's directory can be created where no file stands in the way. -/
theorem ensureDirectories_of_fresh
    (fresh : Fresh files directory)
    (askable : Files.Askable (Path.join directory pageName))
    (clear : files.Clear directory) :
    ∃ made, files.ensureDirectories (Path.cleaned directory) = (.ok (), made)
      ∧ made.Leads directory := by
  have hasStart := fresh.hasStart
  rw [← Files.start_cleaned] at hasStart
  have ensured : ∃ made, files.ensureDirectories (Path.cleaned directory) = (.ok (), made)
      ∧ made.Leads (Path.cleaned directory) := by
    by_cases empty : Path.cleaned directory = ""
    · rw [empty] at hasStart ⊢
      exact ⟨files, Files.ensureDirectories_empty files, Files.leads_empty hasStart⟩
    · have clear : files.Clear (Path.cleaned directory) := fun location member =>
        clear location ((Files.mem_way_cleaned files directory location).mp member)
      obtain ⟨made, ensured⟩ := Files.ensureDirectoriesUpTo_of_clear (Nat.lt_succ_self _)
        (Path.isCleaned_cleaned directory)
        (Files.askable_of_isParent (isParent_page directory) empty askable) hasStart clear
      exact ⟨made, ensured,
        Files.leads_of_isDirectory (Files.isDirectory_of_ensureDirectories empty ensured)⟩
  obtain ⟨made, ensured, leads⟩ := ensured
  exact ⟨made, ensured, fun location member =>
    leads location ((Files.mem_way_cleaned made directory location).mpr member)⟩

theorem pageOutcome_of_fresh
    (fresh : Fresh files directory)
    (askable : Files.Askable (Path.join directory pageName))
    (clear : files.Clear directory)
    (avoids : files.place directory ++ [pageName] ∉ files.way directory)
    (html : String) :
    ∃ written, pageOutcome files (Path.join directory pageName) html = (.ok (), written) := by
  obtain ⟨made, ensured, leads⟩ := ensureDirectories_of_fresh fresh askable clear
  have grows := Files.grows_of_ensureDirectories (Path.isCleaned_cleaned directory) ensured
  have reaches := (Files.reaches_join isName_pageName made directory).mpr ⟨askable, leads⟩
  have missing : made.entry? (made.place (Path.join directory pageName)) = none := by
    rw [Files.place_join isName_pageName, grows.keeps.place, grows.unchanged_of_not_mem,
      fresh.nothing]
    rwa [Files.mem_way_cleaned]
  have wrote := Files.write_join isName_pageName reaches (by simp [missing]) html.toUTF8
  refine ⟨_, (pageOutcome_eq_ok _ _ _ _).mpr ⟨made, ?_, wrote⟩⟩
  rw [Path.parent?_join isName_pageName, Option.getD_some, ensured]

/-- Below a fresh directory, there is room for every version that is not named as
the pages are. -/
theorem room_of_fresh
    {name : String}
    (fresh : Fresh files directory)
    (hasRoot : HasRootPage directory rootHtml files middle)
    (isName : Path.IsName name)
    (askable : Files.Askable (Path.join (Path.join directory name) pageName))
    (different : name ≠ pageName)
    (avoids : pagePlace files directory name ∉ files.way directory) :
    Room middle directory name := by
  have isParent := (isName_pageName.isCleaned_join (Path.join directory name)).isParent
    (parent?_page isName directory)
  refine ⟨Files.askable_of_isParent isParent (Path.join_ne_empty isName directory) askable,
    askable, ?_, ?_⟩
  · rw [directoryPlace, hasRoot.place]
    rcases hasRoot.elsewhere (files.place directory ++ [name]) (by simpa using different) with
      same | ⟨_, _, isDirectory⟩
    · exact .inl (same.trans (fresh.nothing [name]))
    · exact .inr isDirectory
  · rw [pagePlace, hasRoot.place]
    rcases hasRoot.elsewhere (files.place directory ++ [name, pageName]) (by simp) with
      same | ⟨member, _, _⟩
    · rw [same, fresh.nothing [name, pageName]]
      simp
    · exact absurd member avoids

/-- Once a site's directory leads somewhere, no page is on the way of it. -/
theorem wayAvoidsPages_of_written
    (written : Written directory rootHtml html names files middle later) :
    WayAvoidsPages files directory names := by
  have keepsRoot := written.hasRoot.keeps
  have keepsPages := written.hasPages.keeps written.rooms
  intro location member
  rw [← keepsRoot.way] at member
  have onWay := written.hasRoot.leads location member
  constructor
  · rintro rfl
    rw [written.hasRoot.page] at onWay
    cases onWay
  · rintro name written' rfl
    have page := written.hasPages.pages name written'
    rw [pagePlace, keepsRoot.place, ← pagePlace, keepsPages.directories _ onWay] at page
    cases page

/-- All pages of a site can be written into a fresh directory exactly if no file
stands in its way, no version is named as the pages are, and the way of the
directory avoids the pages. -/
theorem exists_pagesOutcome_iff
    (isNames : ∀ name ∈ names, Path.IsName name)
    (fresh : Fresh files directory)
    (fits : Fits directory names) :
    (∃ later, pagesOutcome files
        (sitePages directory rootHtml html names) =
          (.ok (), later)) ↔
      files.Clear directory ∧ pageName ∉ names ∧ WayAvoidsPages files directory names := by
  constructor
  · rintro ⟨later, outcome⟩
    obtain ⟨middle, written⟩ := exists_written_of_pagesOutcome isNames outcome
    have avoids := wayAvoidsPages_of_written written
    refine ⟨?_, written.pageName_not_mem, avoids⟩
    intro location member
    have onWay := written.hasRoot.leads location (by rwa [written.hasRoot.keeps.way])
    rcases written.hasRoot.elsewhere location (avoids location member).1 with
      same | ⟨_, missing, _⟩
    · simp [Files.kindAt, ← same, onWay, Entry.kind]
    · simp [Files.kindAt, missing]
  · rintro ⟨clear, notPage, avoids⟩
    obtain ⟨middle, wrote⟩ := pageOutcome_of_fresh fresh fits.rootPage clear
      (fun member => (avoids _ member).1 rfl) rootHtml
    have hasRoot := hasRootPage_of_pageOutcome wrote
    have rooms : ∀ name ∈ names, Room middle directory name := by
      intro name member
      refine room_of_fresh fresh hasRoot (isNames name member) (fits.versionPage name member) ?_
        fun onWay => (avoids _ onWay).2 name member rfl
      rintro rfl
      exact notPage member
    obtain ⟨later, outcome⟩ := pagesOutcome_of_room html isNames hasRoot.leads rooms
    refine ⟨later, ?_⟩
    rw [sitePages, pagesOutcome_cons, wrote]
    exact outcome

/-! ## Runs -/

variable
  {request : Request}
  {arguments : RenderArguments}
  {config : Config}
  {catalog : Catalog}
  {start : Surroundings}

/-- A run that writes a site into a fresh directory ends well exactly if all its
pages can be written. -/
theorem Renders.exists_perform_iff
    (renders : Renders start.files request arguments config catalog)
    (unversioned : arguments.documentVersion = none)
    (several : config.versions ≠ [])
    (notStandard : Path.isStandardOutput (arguments.out.getD siteName) = false)
    (usable : ∀ version ∈ config.versions, Usable version)
    (fresh : Fresh start.files (arguments.out.getD siteName))
    (fits : Fits (arguments.out.getD siteName) (config.versions.map Text.trim)) :
    (∃ final, (perform request : Simulation Nat).run start = (0, final)) ↔
      start.files.Clear (arguments.out.getD siteName)
        ∧ pageName ∉ config.versions.map Text.trim
        ∧ WayAvoidsPages start.files (arguments.out.getD siteName)
            (config.versions.map Text.trim) := by
  rw [← exists_pagesOutcome_iff (isName_of_usable usable) fresh fits]
  have outcome := renders.perform_site_iff unversioned several
  constructor
  · rintro ⟨final, performed⟩
    exact ⟨final.files, ((outcome _).mp ⟨final, performed, rfl⟩).2.2⟩
  · rintro ⟨later, written⟩
    obtain ⟨final, performed, _⟩ := (outcome later).mpr ⟨notStandard, usable, written⟩
    exact ⟨final, performed⟩

/-! ## A small workspace -/

/-- A workspace with a catalog of one report, and with settings. -/
def smallFiles (settings : String) : Files :=
  { workingDirectory := ["work"]
    entries :=
      [ (["work"], .directory),
        (["work", "r.json"], .file "[[\"A\", \"a.html\"]]".toUTF8),
        (["work", "reports.toml"], .file settings.toUTF8) ] }

def smallStart (settings : String) : Surroundings := { files := smallFiles settings }

def smallCatalog : Catalog := ⟨[⟨"A", "a.html", ""⟩], by decide⟩

def smallArguments : RenderArguments := { catalog := "r.json" }

/-- A request to render the small catalog with the settings of the workspace. -/
def smallRequest : Request := { task := .render smallArguments }

/-- The files of the small workspace can be reached from its working directory and
from the root. -/
theorem reaches_small
    (settings : String)
    {path : String}
    (askable : Files.Askable path)
    (places : (smallFiles "").before path ⊆ [[], ["work"]]) :
    (smallFiles settings).Reaches path := by
  refine ⟨askable, fun location member => ?_⟩
  have known : location ∈ [[], ["work"]] := places member
  simp only [List.mem_cons, List.not_mem_nil, or_false] at known
  rcases known with rfl | rfl <;> rfl

theorem read_smallSettings (settings : String) :
    (smallFiles settings).read "/work/reports.toml" = .ok settings.toUTF8 :=
  (Files.read_eq_ok _ _ _).mpr
    ⟨reaches_small settings (by decide) (by decide), rfl, by decide⟩

theorem renders_small
    {settings : String}
    {config : Config}
    (parsed : Config.ofToml settings = .ok config) :
    Renders (smallStart settings).files smallRequest smallArguments config smallCatalog := by
  have readCatalog : (smallFiles settings).read "r.json" =
      .ok "[[\"A\", \"a.html\"]]".toUTF8 :=
    (Files.read_eq_ok _ _ _).mpr
      ⟨reaches_small settings (by decide) (by decide), rfl, by decide⟩
  have catalog : Catalog.ofFileText "r.json" "[[\"A\", \"a.html\"]]" = .ok smallCatalog := by
    cbv
  have path : Path.join ("/" ++ "/".intercalate ["work"]) Config.fileName =
      "/work/reports.toml" := by
    decide
  refine ⟨rfl, ?_, Catalog.inFiles_of_read readCatalog catalog⟩
  rw [smallRequest, Files.settings, smallStart, smallFiles, path, ← smallFiles,
    Config.inFiles_of_read (read_smallSettings settings) parsed]

theorem notStandard_small :
    Path.isStandardOutput (smallArguments.out.getD siteName) = false := by
  decide

theorem place_small (settings : String) : (smallFiles settings).place "site" = ["work", "site"] :=
  rfl

theorem way_small (settings : String) :
    (smallFiles settings).way "site" = [["work"], ["work", "site"]] :=
  rfl

theorem fresh_small (settings : String) :
    Fresh (smallStart settings).files (smallArguments.out.getD siteName) := by
  change Fresh (smallFiles settings) "site"
  refine ⟨rfl, fun below => ?_⟩
  rw [place_small]
  simp [smallFiles, Files.entry?, List.lookup_cons]

theorem clear_small (settings : String) : (smallFiles settings).Clear "site" := by
  rw [Files.Clear, way_small]
  simp [smallFiles, Files.kindAt, Files.entry?, List.lookup_cons, Entry.kind]

theorem wayAvoidsPages_small (settings : String) (names : List String) :
    WayAvoidsPages (smallFiles settings) "site" names := by
  simp [WayAvoidsPages, pagePlace, place_small, way_small]

/-- In the small workspace, only a version that is named as the pages are keeps a
site from being written. -/
theorem exists_perform_small_iff
    {settings : String}
    {config : Config}
    (parsed : Config.ofToml settings = .ok config)
    (several : config.versions ≠ [])
    (usable : ∀ version ∈ config.versions, Usable version)
    (fits : Fits (smallArguments.out.getD siteName) (config.versions.map Text.trim)) :
    (∃ final, (perform smallRequest : Simulation Nat).run (smallStart settings) = (0, final)) ↔
      pageName ∉ config.versions.map Text.trim := by
  rw [(renders_small parsed).exists_perform_iff rfl several notStandard_small usable
    (fresh_small settings) fits]
  exact ⟨fun outcome => outcome.2.1,
    fun notPage => ⟨clear_small settings, notPage, wayAvoidsPages_small settings _⟩⟩

end ReportIndex.Command
