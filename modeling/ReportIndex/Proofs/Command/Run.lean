import ReportIndex.Proofs.Command.Loading
import ReportIndex.Proofs.Command.Site
import ReportIndex.Proofs.Workspace.Operation

/-!
Contract: a request to render, from start to end.

Owns:
- what an exit status of zero says about the parts of a run;
- the outcome of writing a site, and of writing a single page.

Does not own: when the writing succeeds.
-/

namespace ReportIndex.Command

/-! ## Parts of a run -/

/-- A task that ends well has a first part that ends well. -/
theorem of_run_bind_ok
    {α β : Type}
    {action : TaskM Simulation α}
    {next : α → TaskM Simulation β}
    {start final : Surroundings}
    {value : β}
    (ran : (action >>= next).run.run start = (.ok value, final)) :
    ∃ first middle,
      action.run.run start = (.ok first, middle)
        ∧ (next first).run.run middle = (.ok value, final) := by
  rcases outcome : action.run.run start with ⟨error | first, middle⟩
  · rw [run_bind_error outcome] at ran
    cases ran
  · rw [run_bind_ok outcome] at ran
    exact ⟨first, middle, rfl, ran⟩

theorem run_announceLinkStrategy (config : Config) (surroundings : Surroundings) :
    ∃ after,
      (Config.announceLinkStrategy config : Simulation LinkStrategy).run surroundings =
          (config.linkStrategy, after)
        ∧ surroundings.Becomes surroundings.files "" after := by
  rw [Config.announceLinkStrategy]
  split
  · exact ⟨_, rfl, .silent _ _ _⟩
  · exact ⟨_, rfl, .silent _ _ _⟩

theorem run_announceContext (config : Config) (surroundings : Surroundings) :
    ∃ after,
      (Config.announceContext config : Simulation Context).run surroundings =
          (Context.ofConfig config, after)
        ∧ surroundings.Becomes surroundings.files "" after := by
  obtain ⟨after, announced, becomes⟩ := run_announceLinkStrategy config surroundings
  refine ⟨after, ?_, becomes⟩
  rw [Config.announceContext, Simulation.run_bind_of announced]
  rfl

/-- The surroundings in which a request is carried out. -/
def started (start : Surroundings) : Surroundings :=
  { start with log := start.log ++ [startEvent] }

theorem files_started (start : Surroundings) : (started start).files = start.files := rfl

theorem started_becomes (start : Surroundings) : start.Becomes start.files "" (started start) :=
  .silent _ _ _

theorem perform_of_ok
    {request : Request}
    {start final : Surroundings}
    {status : Nat}
    (ran : (run request : TaskM Simulation Nat).run.run (started start) = (.ok status, final)) :
    (perform request : Simulation Nat).run start = (status, final) := by
  have recorded : (Workspace.record startEvent : Simulation Unit).run start = ((), started start) :=
    rfl
  rw [perform, Simulation.run_bind_of recorded, Simulation.run_bind_of ran]
  rfl

theorem run_of_perform
    {request : Request}
    {start final : Surroundings}
    (performed : (perform request : Simulation Nat).run start = (0, final)) :
    (run request : TaskM Simulation Nat).run.run (started start) = (.ok 0, final) := by
  rcases ran : (run request : TaskM Simulation Nat).run.run (started start) with
    ⟨error | status, after⟩
  · have recorded : (Workspace.record startEvent : Simulation Unit).run start =
      ((), started start) := rfl
    rw [perform, Simulation.run_bind_of recorded, Simulation.run_bind_of ran] at performed
    cases performed
  · rw [perform_of_ok ran] at performed
    cases performed
    rfl

/-! ## Requests to render -/

/-- A request to render, with the settings and the catalog that it finds. -/
structure Renders
    (files : Files)
    (request : Request)
    (arguments : RenderArguments)
    (config : Config)
    (catalog : Catalog) : Prop where
  task : request.task = .render arguments
  settings : files.settings request.config = .ok config
  catalog : Catalog.inFiles files arguments.catalog = .ok catalog

/-- The context of a rendering without a version. -/
def RenderArguments.contextOf (arguments : RenderArguments) (config : Config) : Context :=
  Context.ofConfig (arguments.override config)

section

variable
  {request : Request}
  {arguments : RenderArguments}
  {config : Config}
  {catalog : Catalog}

theorem Renders.of_perform
    {start final : Surroundings}
    (task : request.task = .render arguments)
    (settings : start.files.settings request.config = .ok config)
    (performed : (perform request : Simulation Nat).run start = (0, final)) :
    ∃ catalog, Renders start.files request arguments config catalog := by
  have ran := run_of_perform performed
  obtain ⟨configured, loaded, becomes⟩ := run_loadConfig request.config (started start)
  rw [files_started, settings] at loaded
  rw [run, run_bind_ok loaded, task] at ran
  obtain ⟨catalog, middle, found, _⟩ := of_run_bind_ok ran
  obtain ⟨after, read, _⟩ := run_loadCatalog arguments.catalog configured
  rw [read, becomes.files, files_started] at found
  cases inFiles : Catalog.inFiles start.files arguments.catalog with
  | ok catalog => exact ⟨catalog, task, settings, inFiles⟩
  | error error =>
      rw [inFiles] at found
      cases found

/-- What a request to render does once settings and catalog are loaded. -/
def produce
    (arguments : RenderArguments)
    (config : Config)
    (catalog : Catalog) :
    TaskM Simulation Unit :=
  let context := arguments.contextOf config
  match arguments.documentVersion with
  | some version => writeSinglePage arguments catalog (context.withVersion version)
  | none =>
      if config.versions.isEmpty then writeSinglePage arguments catalog context
      else writeSite arguments.fragment catalog context (arguments.out.getD siteName) config.versions

theorem Renders.run_eq
    {start : Surroundings}
    (renders : Renders start.files request arguments config catalog) :
    ∃ middle,
      start.Becomes start.files "" middle
        ∧ (run request : TaskM Simulation Nat).run.run (started start) =
            (produce arguments config catalog >>= fun _ => pure 0).run.run middle := by
  obtain ⟨configured, loaded, becomes⟩ := run_loadConfig request.config (started start)
  rw [files_started, renders.settings] at loaded
  rw [files_started] at becomes
  have becomes := (started_becomes start).trans_silent becomes
  obtain ⟨read, found, becomesRead⟩ := run_loadCatalog arguments.catalog configured
  rw [becomes.files] at found becomesRead
  rw [renders.catalog] at found
  have becomes := becomes.trans_silent becomesRead
  obtain ⟨middle, announced, becomesMiddle⟩ :=
    run_announceContext (arguments.override config) read
  rw [becomes.files] at becomesMiddle
  have becomes := becomes.trans_silent becomesMiddle
  refine ⟨middle, becomes, ?_⟩
  rw [run, run_bind_ok loaded, renders.task]
  dsimp only
  rw [render, run_bind_ok found, run_bind_ok (run_lift announced), produce]
  cases arguments.documentVersion with
  | some version => rfl
  | none =>
      dsimp only
      have versions : (arguments.override config).versions = config.versions := rfl
      rw [versions]
      split <;> rfl

/-- A request to render ends well exactly if its pages are produced. -/
theorem Renders.perform_eq_zero_iff
    {start : Surroundings}
    (renders : Renders start.files request arguments config catalog) :
    ∃ middle,
      start.Becomes start.files "" middle
        ∧ ∀ final,
          (perform request : Simulation Nat).run start = (0, final) ↔
            (produce arguments config catalog).run.run middle = (.ok (), final) := by
  obtain ⟨middle, becomes, ran⟩ := renders.run_eq
  refine ⟨middle, becomes, fun final => ⟨fun performed => ?_, fun produced => ?_⟩⟩
  · have performed := run_of_perform performed
    rw [ran] at performed
    obtain ⟨⟨⟩, after, produced, ended⟩ := of_run_bind_ok performed
    cases ended
    exact produced
  · refine perform_of_ok ?_
    rw [ran, run_bind_ok produced]
    rfl

/-- The markup of a page as a run with these settings renders it. -/
def RenderArguments.html
    (arguments : RenderArguments)
    (config : Config)
    (catalog : Catalog)
    (version : Option String) :
    String :=
  markup arguments.fragment catalog { arguments.contextOf config with version }

/-- The path of a version's page. -/
def RenderArguments.pagePath (arguments : RenderArguments) (version : String) : String :=
  Path.join (Path.join (arguments.out.getD siteName) (Text.trim version)) pageName

/-- The pages of a site with their paths, in the order in which they are
written. -/
def RenderArguments.site
    (arguments : RenderArguments)
    (config : Config)
    (catalog : Catalog) :
    List (String × String) :=
  sitePages (arguments.out.getD siteName) (arguments.html config catalog none)
    (fun version => arguments.html config catalog (some version))
    (config.versions.map Text.trim)

/-- A site is written exactly if its directory is not the standard output, every
version can be the name of a directory, and all its pages can be written. -/
theorem Renders.perform_site_iff
    {start : Surroundings}
    (renders : Renders start.files request arguments config catalog)
    (unversioned : arguments.documentVersion = none)
    (several : config.versions ≠ [])
    (files : Files) :
    (∃ final, (perform request : Simulation Nat).run start = (0, final) ∧ final.files = files) ↔
      Path.isStandardOutput (arguments.out.getD siteName) = false
        ∧ (∀ version ∈ config.versions, Usable version)
        ∧ pagesOutcome start.files (arguments.site config catalog) = (.ok (), files) := by
  obtain ⟨middle, becomes, performed⟩ := renders.perform_eq_zero_iff
  have site : arguments.site config catalog =
      sitePages (arguments.out.getD siteName)
        (markup arguments.fragment catalog (arguments.contextOf config))
        (versionMarkup arguments.fragment catalog (arguments.contextOf config))
        (config.versions.map Text.trim) := rfl
  have produced : produce arguments config catalog =
      writeSite arguments.fragment catalog (arguments.contextOf config)
        (arguments.out.getD siteName) config.versions := by
    rw [produce, unversioned]
    exact if_neg (by simpa using several)
  simp only [performed, produced]
  constructor
  · rintro ⟨final, ran, rfl⟩
    obtain ⟨notStandard, usable⟩ := usable_of_run_writeSite _ _ _ ran
    obtain ⟨after, wrote, becomesAfter⟩ := run_writeSite arguments.fragment catalog
      (arguments.contextOf config) notStandard
      ((mapM_versionDirectory_eq_ok _ _).mpr ⟨usable, rfl⟩) middle
    rw [becomes.files] at wrote becomesAfter
    rw [ran, Prod.mk.injEq] at wrote
    obtain ⟨outcome, rfl⟩ := wrote
    exact ⟨notStandard, usable, Prod.ext outcome.symm becomesAfter.files.symm⟩
  · rintro ⟨notStandard, usable, outcome⟩
    obtain ⟨after, wrote, becomesAfter⟩ := run_writeSite arguments.fragment catalog
      (arguments.contextOf config) notStandard
      ((mapM_versionDirectory_eq_ok _ _).mpr ⟨usable, rfl⟩) middle
    rw [becomes.files, ← site, outcome] at wrote becomesAfter
    exact ⟨after, wrote, becomesAfter.files⟩

/-! ## Single pages -/

theorem produce_eq_writeOutput
    {version : String}
    (versioned : arguments.documentVersion = some version)
    (middle : Surroundings) :
    ∃ rendered,
      middle.Becomes middle.files "" rendered
        ∧ (produce arguments config catalog).run.run middle =
            (writeOutput (arguments.out.getD pageName)
              (markup arguments.fragment catalog
                ((arguments.contextOf config).withVersion version)) :
              TaskM Simulation Unit).run.run rendered := by
  obtain ⟨rendered, ran, becomes⟩ := run_renderMarkup arguments.fragment catalog
    ((arguments.contextOf config).withVersion version) middle
  refine ⟨rendered, becomes, ?_⟩
  rw [produce, versioned]
  exact run_bind_ok (run_lift ran) _

/-- A page that goes to the standard output is always printed, with a line break
behind it. -/
theorem Renders.perform_printed
    {start : Surroundings}
    {version : String}
    (renders : Renders start.files request arguments config catalog)
    (versioned : arguments.documentVersion = some version)
    (standard : Path.isStandardOutput (arguments.out.getD pageName) = true) :
    ∃ final,
      (perform request : Simulation Nat).run start = (0, final)
        ∧ start.Becomes start.files
            (markup arguments.fragment catalog ((arguments.contextOf config).withVersion version)
              ++ "\n") final := by
  obtain ⟨middle, becomes, performed⟩ := renders.perform_eq_zero_iff
  obtain ⟨rendered, becomesRendered, produced⟩ := produce_eq_writeOutput versioned middle
  rw [becomes.files] at becomesRendered
  obtain ⟨final, wrote, becomesFinal⟩ := run_writeOutput_standard standard
    (markup arguments.fragment catalog ((arguments.contextOf config).withVersion version)) rendered
  have becomes := becomes.trans_silent becomesRendered
  rw [becomes.files] at becomesFinal
  refine ⟨final, (performed final).mpr (produced.trans wrote), ?_⟩
  have both := becomes.trans becomesFinal
  rwa [String.empty_append] at both

/-- A page that has been written to a file can be read there. -/
theorem Renders.read_of_perform
    {start final : Surroundings}
    {version : String}
    (renders : Renders start.files request arguments config catalog)
    (versioned : arguments.documentVersion = some version)
    (notStandard : Path.isStandardOutput (arguments.out.getD pageName) = false)
    (ran : (perform request : Simulation Nat).run start = (0, final)) :
    final.files.read (arguments.out.getD pageName) =
      .ok (markup arguments.fragment catalog
        ((arguments.contextOf config).withVersion version)).toUTF8 := by
  obtain ⟨middle, becomes, performed⟩ := renders.perform_eq_zero_iff
  obtain ⟨rendered, becomesRendered, produced⟩ := produce_eq_writeOutput versioned middle
  obtain ⟨after, wrote, becomesAfter⟩ := run_writeOutput notStandard
    (markup arguments.fragment catalog ((arguments.contextOf config).withVersion version)) rendered
  rw [(performed final).mp ran, wrote, Prod.mk.injEq] at produced
  obtain ⟨outcome, rfl⟩ := produced
  obtain ⟨made, _, written⟩ := (pageOutcome_eq_ok _ _ _ _).mp
    (Prod.ext outcome.symm becomesAfter.files.symm)
  exact Files.read_of_write written

end

end ReportIndex.Command
