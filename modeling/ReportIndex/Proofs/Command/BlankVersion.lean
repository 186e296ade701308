import ReportIndex.Proofs.Command.FreshSite
import ReportIndex.Proofs.Command.RequestEnding
import ReportIndex.Proofs.Page.Version

/-!
Contract: what of a version on the command line a run depends on.

Owns:
- requests that differ in nothing but their version, and when two of them come to
  the same;
- a blank version, which is no missing one: with it a page is written where
  without it a site is.

Does not own: the active form of a version.
-/

namespace ReportIndex.Command

/-! ## Requests and what they come to -/

/-- The task with another version on the command line. Looking for illustrations
takes none. -/
def Task.asking (version : Option String) : Task → Task
  | .render arguments => .render { arguments with documentVersion := version }
  | .check arguments => .check arguments
  | .list arguments => .list { arguments with documentVersion := version }

def Request.asking (request : Request) (version : Option String) : Request :=
  { request with task := request.task.asking version }

/-- The request is one to write a site, by the settings that it finds. -/
def WritesSite (files : Files) (request : Request) : Prop :=
  ∃ arguments config,
    request.task = .render arguments
      ∧ files.settings request.config = .ok config
      ∧ arguments.writesSite config = true

theorem task_asking
    {request : Request}
    {arguments : RenderArguments}
    (task : request.task = .render arguments)
    (version : Option String) :
    (request.asking version).task = .render { arguments with documentVersion := version } := by
  rw [Request.asking, task]
  rfl

/-- A site is asked for exactly if no version is and versions are configured. -/
theorem writesSite_asking
    {files : Files}
    {request : Request}
    {arguments : RenderArguments}
    {config : Config}
    (task : request.task = .render arguments)
    (settings : files.settings request.config = .ok config)
    (version : Option String) :
    WritesSite files (request.asking version) ↔ version = none ∧ config.versions ≠ [] := by
  have asked := task_asking task version
  rw [← RenderArguments.writesSite_eq_true { arguments with documentVersion := version } config]
  constructor
  · rintro ⟨found, foundConfig, foundTask, foundSettings, writes⟩
    cases foundTask.symm.trans asked
    cases foundSettings.symm.trans settings
    exact writes
  · exact fun writes => ⟨_, config, asked, settings, writes⟩

/-- Both requests have the same exit status, print the same and leave the same
files. -/
structure ComeToSame (first second : Request) (start : Surroundings) : Prop where
  status :
    ((perform first : Simulation Nat).run start).1 =
      ((perform second : Simulation Nat).run start).1
  output :
    ((perform first : Simulation Nat).run start).2.output =
      ((perform second : Simulation Nat).run start).2.output
  files :
    ((perform first : Simulation Nat).run start).2.files.SameAs
      ((perform second : Simulation Nat).run start).2.files

theorem comeToSame_of_ending_eq
    {first second : Request}
    {start : Surroundings}
    (same : first.ending start.files = second.ending start.files) :
    ComeToSame first second start := by
  obtain ⟨final, performed, leaves⟩ := perform_leaves first start
  obtain ⟨other, performedOther, leavesOther⟩ := perform_leaves second start
  rw [← same] at performedOther leavesOther
  refine ⟨?_, ?_, ?_⟩
  · rw [performed, performedOther]
  · rw [performed, performedOther, leaves.output, leavesOther.output]
  · rw [performed, performedOther, leaves.files, leavesOther.files]
    exact ⟨rfl, fun _ => rfl⟩

/-! ## Versions with the same active form -/

section

variable {version other : Option String} (same : activeVersion version = activeVersion other)

include same

theorem RenderArguments.ending_asking
    (arguments : RenderArguments)
    {config : Config}
    (sameMode : version = none ∧ config.versions ≠ [] ↔ other = none ∧ config.versions ≠ [])
    (catalog : Catalog) :
    { arguments with documentVersion := version }.ending config catalog =
      { arguments with documentVersion := other }.ending config catalog := by
  have sameHtml :
      { arguments with documentVersion := version }.html config catalog version =
        { arguments with documentVersion := other }.html config catalog other :=
    markup_version_eq catalog arguments.fragment (arguments.contextOf config) same
  have sameWrites :
      { arguments with documentVersion := version }.writesSite config =
        { arguments with documentVersion := other }.writesSite config := by
    rw [Bool.eq_iff_iff, RenderArguments.writesSite_eq_true, RenderArguments.writesSite_eq_true]
    exact sameMode
  funext files
  rw [RenderArguments.ending, RenderArguments.ending, RenderArguments.pagesEnding,
    RenderArguments.pagesEnding, sameWrites, sameHtml]
  rfl

theorem ListArguments.ending_asking
    (arguments : ListArguments)
    (config : Config)
    (catalog : Catalog) :
    { arguments with documentVersion := version }.ending config catalog =
      { arguments with documentVersion := other }.ending config catalog := by
  have sameCards :
      ({ arguments with documentVersion := version }.contextOf config).cards catalog =
        ({ arguments with documentVersion := other }.contextOf config).cards catalog := by
    rw [ListArguments.contextOf_eq, ListArguments.contextOf_eq]
    exact Context.cards_version_eq catalog (Context.ofConfig config) same
  funext files
  rw [ListArguments.ending, ListArguments.ending, sameCards]

theorem Request.ending_asking
    {request : Request}
    {files : Files}
    (sameMode :
      WritesSite files (request.asking version) ↔ WritesSite files (request.asking other)) :
    (request.asking version).ending files = (request.asking other).ending files := by
  refine ending_congr rfl ?_ fun config catalog settings => ?_
  · rw [asking, asking]
    cases request.task <;> rfl
  · cases task : request.task with
    | check arguments => rw [asking, asking, task]; rfl
    | list arguments =>
        rw [asking, asking, task]
        exact congrFun (arguments.ending_asking same config catalog) files
    | render arguments =>
        rw [writesSite_asking task settings, writesSite_asking task settings] at sameMode
        rw [asking, asking, task]
        exact congrFun (arguments.ending_asking same sameMode catalog) files

end

/-! ## Pages in place of sites -/

theorem keeps_of_sameAs {first second : Files} (same : first.SameAs second) :
    Files.Keeps first second :=
  ⟨same.workingDirectory.symm, fun location isDirectory => same.entries location ▸ isDirectory⟩

/-- The directory of a site is a file in no file system that is the same. -/
theorem not_sameAs_of_leads
    {site page : Files}
    {target : String}
    {content : ByteArray}
    (leads : site.Leads target)
    (read : page.read target = .ok content) :
    ¬site.SameAs page := by
  intro same
  have isFile := ((Files.read_eq_ok page target content).mp read).2.1
  rw [(keeps_of_sameAs same).leads leads _ (page.place_mem_way target)] at isFile
  cases isFile

section

variable
  {request : Request}
  {arguments : RenderArguments}
  {config : Config}
  {start : Surroundings}
  {version other : Option String}

/-- A page that comes to the same as another request which ends well can be read in
the files that the other one leaves. -/
theorem Renders.read_of_comeToSame
    {first page : Request}
    {catalog : Catalog}
    {final : Surroundings}
    {given : String}
    (renders : Renders start.files page arguments config catalog)
    (versioned : arguments.documentVersion = some given)
    (notStandard : Path.isStandardOutput (arguments.out.getD pageName) = false)
    (ran : (perform first : Simulation Nat).run start = (0, final))
    (same : ComeToSame first page start) :
    ∃ files content,
      final.files.SameAs files ∧ files.read (arguments.out.getD pageName) = .ok content := by
  have pageRan : (perform page : Simulation Nat).run start = (0, _) :=
    Prod.ext (same.status.symm.trans (by rw [ran])) rfl
  have sameFiles := same.files
  rw [ran] at sameFiles
  exact ⟨_, _, sameFiles, renders.read_of_perform versioned notStandard pageRan⟩

/-- A single page that comes to the same as a site is none: both would be at the
place that is named for them. -/
theorem writesSite_of_comeToSame
    {target : String}
    (task : request.task = .render arguments)
    (named : arguments.out = some target)
    (writes : WritesSite start.files (request.asking version))
    (endsWell : ((perform (request.asking version) : Simulation Nat).run start).1 = 0)
    (same : ComeToSame (request.asking version) (request.asking other) start) :
    WritesSite start.files (request.asking other) := by
  have ⟨_, config, _, settings, _⟩ := writes
  rw [writesSite_asking task settings] at writes ⊢
  obtain ⟨unversioned, several⟩ := writes
  refine ⟨?_, several⟩
  cases other with
  | none => rfl
  | some given =>
      have siteRan : (perform (request.asking version) : Simulation Nat).run start = (0, _) :=
        Prod.ext endsWell rfl
      obtain ⟨catalog, siteRenders⟩ :=
        Renders.of_perform (task_asking task version) settings siteRan
      have pageRenders : Renders start.files (request.asking (some given))
          { arguments with documentVersion := some given } config catalog :=
        ⟨task_asking task (some given), settings, siteRenders.catalog⟩
      obtain ⟨notStandard, _, _, written⟩ := siteRenders.exists_written unversioned several siteRan
      have leads := written.leads
      simp only [named, Option.getD_some] at notStandard leads
      obtain ⟨files, content, sameFiles, read⟩ :=
        pageRenders.read_of_comeToSame rfl (by simpa [named] using notStandard) siteRan same
      simp only [named, Option.getD_some] at read
      exact absurd sameFiles (not_sameAs_of_leads leads read)

end

/-! ## Runs -/

theorem ComeToSame.symm
    {first second : Request}
    {start : Surroundings}
    (same : ComeToSame first second start) :
    ComeToSame second first start :=
  ⟨same.status.symm, same.output.symm, same.files.workingDirectory.symm,
    fun location => (same.files.entries location).symm⟩

/-- A request to print the small catalog. -/
def smallPrintedRequest : Request :=
  { task := .render { smallArguments with out := some "-" } }

/-- **Of the version on the command line only its active form counts**, but for the
choice between a page and a site: requests with the same active version come to
the same if both or neither of them writes a site. If they name where to write to,
and one of them ends well, they do so in no other case. -/
theorem same_active_version
    {request : Request}
    {start : Surroundings}
    {version other : Option String}
    (same : activeVersion version = activeVersion other) :
    ((WritesSite start.files (request.asking version) ↔
          WritesSite start.files (request.asking other)) →
        ComeToSame (request.asking version) (request.asking other) start)
      ∧ ∀ arguments target,
          request.task = .render arguments →
          arguments.out = some target →
          ((perform (request.asking version) : Simulation Nat).run start).1 = 0
            ∨ ((perform (request.asking other) : Simulation Nat).run start).1 = 0 →
          ComeToSame (request.asking version) (request.asking other) start →
          (WritesSite start.files (request.asking version) ↔
            WritesSite start.files (request.asking other)) := by
  refine ⟨fun sameMode => comeToSame_of_ending_eq (Request.ending_asking same sameMode), ?_⟩
  intro arguments target task named endsWell comeToSame
  have versionEndsWell :
      ((perform (request.asking version) : Simulation Nat).run start).1 = 0 :=
    endsWell.elim id comeToSame.status.trans
  have otherEndsWell := comeToSame.status.symm.trans versionEndsWell
  exact ⟨fun writes => writesSite_of_comeToSame task named writes versionEndsWell comeToSame,
    fun writes => writesSite_of_comeToSame task named writes otherEndsWell comeToSame.symm⟩

/-- A version with blanks at its ends gives the same page. A blank one that gives a
printed page is not the same as none, which asks for a site. -/
theorem same_active_version_padded :
    ComeToSame (smallRequest.asking (some "v1")) (smallRequest.asking (some " v1 "))
        (smallStart "versions = [\"v1\"]\n")
      ∧ ¬ComeToSame (smallPrintedRequest.asking (some " ")) (smallPrintedRequest.asking none)
          (smallStart "versions = [\"v1\"]\n") := by
  have parsed : Config.ofToml "versions = [\"v1\"]\n" = .ok { versions := ["v1"] } := by
    cbv
  have renders := renders_small parsed
  have settings : (smallStart "versions = [\"v1\"]\n").files.settings smallPrintedRequest.config =
      .ok { versions := ["v1"] } :=
    renders.settings
  constructor
  · have sameActive : activeVersion (some "v1") = activeVersion (some " v1 ") := by
      decide
    refine (same_active_version sameActive).1 ?_
    rw [writesSite_asking rfl renders.settings, writesSite_asking rfl renders.settings]
    decide
  · intro comeToSame
    have printed : Renders (smallStart "versions = [\"v1\"]\n").files
        (smallPrintedRequest.asking (some " "))
        { smallArguments with documentVersion := some " ", out := some "-" }
        { versions := ["v1"] } smallCatalog :=
      ⟨rfl, settings, renders.catalog⟩
    obtain ⟨final, performed, _⟩ := printed.perform_printed rfl (by decide)
    have sameActive : activeVersion (some " ") = activeVersion none := by
      decide
    have sameMode := (same_active_version sameActive).2 _ "-" rfl rfl
      (.inl (congrArg Prod.fst performed)) comeToSame
    rw [writesSite_asking rfl settings, writesSite_asking rfl settings] at sameMode
    exact absurd sameMode (by decide)

/-- A request for the grid of the small catalog. -/
def smallFragmentRequest : Request :=
  { task := .render { smallArguments with fragment := true } }

/-- With versions in the settings, a blank one on the command line is taken as none
by all that reads it, and yet a page is written for it where a site is for none. -/
theorem blank_version_is_not_absent :
    activeVersion none = activeVersion (some "")
      ∧ ¬ComeToSame (smallFragmentRequest.asking none) (smallFragmentRequest.asking (some ""))
          (smallStart "versions = [\"v1\"]\n") := by
  have parsed : Config.ofToml "versions = [\"v1\"]\n" = .ok { versions := ["v1"] } := by
    cbv
  have renders := renders_small parsed
  have site : Renders (smallStart "versions = [\"v1\"]\n").files
      (smallFragmentRequest.asking none) { smallArguments with fragment := true }
      { versions := ["v1"] } smallCatalog :=
    ⟨rfl, renders.settings, renders.catalog⟩
  have page : Renders (smallStart "versions = [\"v1\"]\n").files
      (smallFragmentRequest.asking (some ""))
      { smallArguments with documentVersion := some "", fragment := true }
      { versions := ["v1"] } smallCatalog :=
    ⟨rfl, renders.settings, renders.catalog⟩
  have usable : ∀ version ∈ ["v1"], Usable version := by decide
  have fits : Fits "site" (["v1"].map Text.trim) := by decide
  obtain ⟨siteFinal, siteRan⟩ :=
    (site.exists_perform_iff rfl (by simp) notStandard_small usable (fresh_small _) fits).mpr
      ⟨clear_small _, by decide, wayAvoidsPages_small _ _⟩
  refine ⟨by decide, fun same => ?_⟩
  obtain ⟨_, _, middle, written⟩ := site.exists_written rfl (by simp) siteRan
  obtain ⟨files, content, sameFiles, read⟩ := page.read_of_comeToSame rfl (by decide) siteRan same
  -- The page is at `index.html`, where the site has nothing.
  have isFile := ((Files.read_eq_ok _ _ _).mp read).2.1
  rw [(keeps_of_sameAs sameFiles).place, written.keeps.place, ← sameFiles.entries] at isFile
  have wasFile := (written.file_iff_of_not_page (by decide) (by decide) content).mp isFile
  cases wasFile

end ReportIndex.Command
