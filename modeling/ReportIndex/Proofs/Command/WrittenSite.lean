import ReportIndex.Proofs.Command.FreshSite
import ReportIndex.Proofs.Page.Version

/-!
Contract: what a run that writes a site leaves behind.

Owns:
- every page of a site where it belongs, the same as if it had been written
  alone or with other versions;
- all other files as they were, and the independence of the order and of the
  repetition of versions.

Does not own: when a run succeeds.
-/

namespace ReportIndex.Command

/-- The request for a version's page alone, with everything else as it is. -/
def Request.forPage
    (request : Request)
    (arguments : RenderArguments)
    (version target : String) :
    Request :=
  { request with
    task := .render { arguments with documentVersion := some version, out := some target } }

/-- What a run that writes a site leaves behind. -/
structure LeavesSite
    (request : Request)
    (arguments : RenderArguments)
    (config : Config)
    (catalog : Catalog)
    (start final : Surroundings) : Prop where
  rootPage :
    final.files.read (Path.join (arguments.out.getD siteName) pageName) =
      .ok (arguments.html config catalog none).toUTF8
  versionPage :
    ∀ version ∈ config.versions,
      final.files.read (arguments.pagePath version) =
        .ok (arguments.html config catalog (some version)).toUTF8
  /-- A run for the version alone writes the same bytes to any file. -/
  writtenAlone :
    ∀ version ∈ config.versions, ∀ target single,
      Path.isStandardOutput target = false →
      (perform (request.forPage arguments version target) : Simulation Nat).run start =
        (0, single) →
      single.files.read target = final.files.read (arguments.pagePath version)
  /-- A run for the version alone can print the same text. -/
  printedAlone :
    ∀ version ∈ config.versions, ∃ single html,
      (perform (request.forPage arguments version "-") : Simulation Nat).run start = (0, single)
        ∧ single.output = start.output ++ (html ++ "\n")
        ∧ final.files.read (arguments.pagePath version) = .ok html.toUTF8
  /-- In any surroundings with the same catalog, the other versions leave a
  version's page as it is. -/
  otherVersions :
    ∀ other versions before after,
      other.task = request.task →
      before.files.settings other.config = .ok { config with versions } →
      Catalog.inFiles before.files arguments.catalog = .ok catalog →
      (perform other : Simulation Nat).run before = (0, after) →
      ∀ version ∈ config.versions, version ∈ versions →
        after.files.read (arguments.pagePath version) =
          final.files.read (arguments.pagePath version)
  otherFile :
    ∀ location,
      final.files.locate (Path.join (arguments.out.getD siteName) pageName) ≠ .ok location →
      (∀ version ∈ config.versions,
        final.files.locate (arguments.pagePath version) ≠ .ok location) →
      ∀ content,
        final.files.entry? location = some (.file content) ↔
          start.files.entry? location = some (.file content)
  /-- Another order of the versions, and other repetitions, change nothing. -/
  sameVersions :
    ∀ other versions,
      other.task = request.task →
      start.files.settings other.config = .ok { config with versions } →
      (∀ name, name ∈ versions.map Text.trim ↔ name ∈ config.versions.map Text.trim) →
      ∃ again,
        (perform other : Simulation Nat).run start = (0, again) ∧ again.files.SameAs final.files

theorem html_trim
    (arguments : RenderArguments)
    (config : Config)
    (catalog : Catalog)
    (version : String) :
    arguments.html config catalog (some (Text.trim version)) =
      arguments.html config catalog (some version) :=
  markup_version_eq _ _ _ (activeVersion_trim version)

variable
  {request : Request}
  {arguments : RenderArguments}
  {config : Config}
  {catalog : Catalog}
  {start final : Surroundings}

theorem Renders.read_pagePath
    (renders : Renders start.files request arguments config catalog)
    (unversioned : arguments.documentVersion = none)
    (performed : (perform request : Simulation Nat).run start = (0, final))
    {version : String}
    (configured : version ∈ config.versions) :
    final.files.read (arguments.pagePath version) =
      .ok (arguments.html config catalog (some version)).toUTF8 := by
  obtain ⟨_, _, middle, written⟩ :=
    renders.exists_written unversioned (List.ne_nil_of_mem configured) performed
  have read := written.read_versionPage (List.mem_map_of_mem configured)
  rw [html_trim] at read
  exact read

/-- Where no path of a page leads, a file is there afterwards exactly if it was
there before. -/
theorem Renders.file_iff_of_not_located
    (renders : Renders start.files request arguments config catalog)
    (unversioned : arguments.documentVersion = none)
    (several : config.versions ≠ [])
    (performed : (perform request : Simulation Nat).run start = (0, final))
    {location : Location}
    (notRoot :
      final.files.locate (Path.join (arguments.out.getD siteName) pageName) ≠ .ok location)
    (notPage :
      ∀ version ∈ config.versions,
        final.files.locate (arguments.pagePath version) ≠ .ok location)
    (content : ByteArray) :
    final.files.entry? location = some (.file content) ↔
      start.files.entry? location = some (.file content) := by
  obtain ⟨_, usable, middle, written⟩ := renders.exists_written unversioned several performed
  refine written.file_iff_of_not_page ?_ ?_ content
  · rintro rfl
    have located := ((Files.read_eq_ok _ _ _).mp written.read_rootPage).1.locate
    rw [Files.place_join isName_pageName, written.keeps.place] at located
    exact notRoot located
  · rintro name member rfl
    obtain ⟨version, configured, rfl⟩ := List.mem_map.mp member
    have read := renders.read_pagePath unversioned performed configured
    have located := ((Files.read_eq_ok _ _ _).mp read).1.locate
    rw [RenderArguments.pagePath, place_page (usable version configured).1, pagePlace,
      written.keeps.place] at located
    exact notPage version configured located

/-- **A run that writes a site and ends well leaves the right page at every
place**, and nothing else behind. -/
theorem site_written
    (task : request.task = .render arguments)
    (unversioned : arguments.documentVersion = none)
    (settings : start.files.settings request.config = .ok config)
    (several : config.versions ≠ [])
    (performed : (perform request : Simulation Nat).run start = (0, final)) :
    ∃ catalog,
      Catalog.inFiles start.files arguments.catalog = .ok catalog
        ∧ LeavesSite request arguments config catalog start final := by
  obtain ⟨catalog, renders⟩ := Renders.of_perform task settings performed
  refine ⟨catalog, renders.catalog, ?_⟩
  obtain ⟨notStandard, usable, middle, written⟩ :=
    renders.exists_written unversioned several performed
  have versionPage : ∀ version ∈ config.versions,
      final.files.read (arguments.pagePath version) =
        .ok (arguments.html config catalog (some version)).toUTF8 :=
    fun _ configured => renders.read_pagePath unversioned performed configured
  have alone : ∀ version target, Renders start.files (request.forPage arguments version target)
      { arguments with documentVersion := some version, out := some target } config catalog :=
    fun _ _ => ⟨rfl, renders.settings, renders.catalog⟩
  refine ⟨written.read_rootPage, versionPage, ?_, ?_, ?_, ?_, ?_⟩
  · intro version member target single notStandard ran
    rw [versionPage version member]
    exact (alone version target).read_of_perform rfl notStandard ran
  · intro version member
    have dash : Path.isStandardOutput "-" = true := by decide
    obtain ⟨single, ran, becomes⟩ := (alone version "-").perform_printed rfl dash
    exact ⟨single, _, ran, becomes.output, versionPage version member⟩
  · intro other versions before after sameTask otherSettings sameCatalog ran version configured
      otherConfigured
    have otherRenders : Renders before.files other arguments { config with versions } catalog :=
      ⟨sameTask.trans task, otherSettings, sameCatalog⟩
    rw [versionPage version configured]
    exact otherRenders.read_pagePath unversioned ran otherConfigured
  · intro location notRoot notPage content
    exact renders.file_iff_of_not_located unversioned several performed notRoot notPage content
  · intro other versions sameTask otherSettings same
    have otherRenders : Renders start.files other arguments { config with versions } catalog :=
      ⟨sameTask.trans task, otherSettings, renders.catalog⟩
    exact otherRenders.perform_of_same written unversioned several notStandard usable same

/-- A site for a version that is named twice, once with blanks at its ends. -/
theorem site_written_padded_versions :
    ∃ final catalog,
      (perform smallRequest : Simulation Nat).run (smallStart "versions = [\"v1\", \" v1 \"]\n") =
          (0, final)
        ∧ LeavesSite smallRequest smallArguments { versions := ["v1", " v1 "] } catalog
            (smallStart "versions = [\"v1\", \" v1 \"]\n") final := by
  have parsed : Config.ofToml "versions = [\"v1\", \" v1 \"]\n" =
      .ok { versions := ["v1", " v1 "] } := by
    cbv
  have usable : ∀ version ∈ ["v1", " v1 "], Usable version := by decide
  have fits : Fits "site" (["v1", " v1 "].map Text.trim) := by decide
  have notPage : pageName ∉ ["v1", " v1 "].map Text.trim := by decide
  obtain ⟨final, performed⟩ := (exists_perform_small_iff parsed (by simp) usable fits).mpr notPage
  obtain ⟨catalog, _, leaves⟩ :=
    site_written rfl rfl (renders_small parsed).settings (by simp) performed
  exact ⟨final, catalog, performed, leaves⟩

end ReportIndex.Command
