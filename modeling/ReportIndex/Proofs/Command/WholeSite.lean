import ReportIndex.Proofs.Command.FreshSite

/-!
Contract: when a site is written as a whole.

Owns:
- the exact condition under which a run with accepted versions ends well;
- an accepted version with which it does not.

Does not own: what the pages hold.
-/

namespace ReportIndex.Command

variable
  {request : Request}
  {arguments : RenderArguments}
  {config : Config}
  {catalog : Catalog}
  {start : Surroundings}

theorem usable_of_accepted
    {version name : String}
    (accepted : versionDirectory version = .ok name) :
    Usable version :=
  ((versionDirectory_eq_ok version name).mp accepted).1

/-- With versions that are all accepted, a run that writes a site into a directory
that is not there ends well exactly if no file stands in the way, no version is
named as the pages are, and the way to the directory is not through a page. Then
every page is there as a file. -/
theorem whole_site_iff
    (task : request.task = .render arguments)
    (unversioned : arguments.documentVersion = none)
    (settings : start.files.settings request.config = .ok config)
    (found : Catalog.inFiles start.files arguments.catalog = .ok catalog)
    (several : config.versions ≠ [])
    (accepted : ∀ version ∈ config.versions, ∃ name, versionDirectory version = .ok name)
    (notStandard : Path.isStandardOutput (arguments.out.getD siteName) = false)
    (fresh : Fresh start.files (arguments.out.getD siteName))
    (fits : Fits (arguments.out.getD siteName) (config.versions.map Text.trim)) :
    ((∃ final, (perform request : Simulation Nat).run start = (0, final)) ↔
        start.files.Clear (arguments.out.getD siteName)
          ∧ (∀ version ∈ config.versions, Text.trim version ≠ pageName)
          ∧ WayAvoidsPages start.files (arguments.out.getD siteName)
              (config.versions.map Text.trim))
      ∧ ∀ final, (perform request : Simulation Nat).run start = (0, final) →
          final.files.kind? (Path.join (arguments.out.getD siteName) pageName) = some .file
            ∧ ∀ version ∈ config.versions,
                final.files.kind? (arguments.pagePath version) = some .file := by
  have renders : Renders start.files request arguments config catalog := ⟨task, settings, found⟩
  have usable : ∀ version ∈ config.versions, Usable version := by
    intro version member
    obtain ⟨name, named⟩ := accepted version member
    exact usable_of_accepted named
  constructor
  · rw [renders.exists_perform_iff unversioned several notStandard usable fresh fits]
    simp only [List.mem_map, not_exists, not_and]
  · intro final performed
    obtain ⟨_, _, middle, written⟩ := renders.exists_written unversioned several performed
    exact ⟨Files.kind?_of_read written.read_rootPage, fun version member =>
      Files.kind?_of_read (written.read_versionPage (List.mem_map_of_mem member))⟩

/-- A site for two versions in a directory that is not there. -/
theorem whole_site_two_versions :
    ∃ final,
      (perform smallRequest : Simulation Nat).run (smallStart "versions = [\"v1\", \"v2\"]\n") =
          (0, final)
        ∧ final.files.kind? "site/index.html" = some .file
        ∧ final.files.kind? "site/v1/index.html" = some .file
        ∧ final.files.kind? "site/v2/index.html" = some .file := by
  have parsed : Config.ofToml "versions = [\"v1\", \"v2\"]\n" =
      .ok { versions := ["v1", "v2"] } := by
    cbv
  have usable : ∀ version ∈ ["v1", "v2"], Usable version := by decide
  have accepted : ∀ version ∈ ["v1", "v2"], ∃ name, versionDirectory version = .ok name :=
    fun version member => ⟨_, (versionDirectory_eq_ok _ _).mpr ⟨usable version member, rfl⟩⟩
  have fits : Fits "site" (["v1", "v2"].map Text.trim) := by decide
  have notPage : ∀ version ∈ ["v1", "v2"], Text.trim version ≠ pageName := by decide
  have renders := renders_small parsed
  obtain ⟨ends, present⟩ := whole_site_iff renders.task rfl renders.settings renders.catalog
    (by simp) accepted notStandard_small (fresh_small _) fits
  obtain ⟨final, performed⟩ := ends.mpr ⟨clear_small _, notPage, wayAvoidsPages_small _ _⟩
  obtain ⟨root, pages⟩ := present final performed
  exact ⟨final, performed, root, pages "v1" (by simp), pages "v2" (by simp)⟩

/-- A version that is named as the pages are is accepted, and no site with it is
ever written as a whole: its directory would be where the first page is. -/
theorem whole_site_page_name :
    (∀ version ∈ ["v1", "index.html"], ∃ name, versionDirectory version = .ok name)
      ∧ Renders (smallStart "versions = [\"v1\", \"index.html\"]\n").files smallRequest
          smallArguments { versions := ["v1", "index.html"] } smallCatalog
      ∧ Fresh (smallStart "versions = [\"v1\", \"index.html\"]\n").files "site"
      ∧ Fits "site" (["v1", "index.html"].map Text.trim)
      ∧ ¬∃ final, (perform smallRequest : Simulation Nat).run
          (smallStart "versions = [\"v1\", \"index.html\"]\n") = (0, final) := by
  have parsed : Config.ofToml "versions = [\"v1\", \"index.html\"]\n" =
      .ok { versions := ["v1", "index.html"] } := by
    cbv
  have usable : ∀ version ∈ ["v1", "index.html"], Usable version := by decide
  have fits : Fits "site" (["v1", "index.html"].map Text.trim) := by decide
  have isPage : pageName ∈ ["v1", "index.html"].map Text.trim := by decide
  refine ⟨?_, renders_small parsed, fresh_small _, fits, ?_⟩
  · intro version member
    exact ⟨_, (versionDirectory_eq_ok _ _).mpr ⟨usable version member, rfl⟩⟩
  · rw [exists_perform_small_iff parsed (by simp) usable fits]
    exact fun notPage => notPage isPage

end ReportIndex.Command
