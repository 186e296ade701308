import ReportIndex.Proofs.Command.Ending
import ReportIndex.Proofs.Command.Run

/-!
Contract: how every request ends.

Owns:
- the ending of each task, by the files that it finds;
- the agreement of carrying out a request with its ending, whatever it comes to.

Does not own: what an ending means for its user.
-/

namespace ReportIndex

/-- The paths where no file is. -/
def Files.missing (files : Files) (paths : List String) : List String :=
  paths.filter fun path => files.kind? path != some .file

namespace Command

/-! ## Pages -/

/-- The ending of writing a page to a path, or to the standard output. -/
def outputEnding (path html : String) (files : Files) : Ending Unit :=
  if Path.isStandardOutput path then { result := .ok (), files, printed := html ++ "\n" }
  else .writing (pageOutcome files path html)

theorem endsAs_writeOutput (path html : String) :
    EndsAs (writeOutput path html) (outputEnding path html) := by
  refine .of_becomes (fun files => ?_) fun start => ?_
  · rw [outputEnding]
    split <;> rfl
  · rw [outputEnding]
    split
    next standard => exact run_writeOutput_standard standard html start
    next notStandard => exact run_writeOutput (by simpa using notStandard) html start

/-- The ending of writing a site: what can be wrong with its directory and its
versions is found before the first page is written. -/
def siteEnding
    (fragment : Bool)
    (catalog : Catalog)
    (context : Context)
    (directory : String)
    (versions : List String)
    (files : Files) :
    Ending Unit :=
  if Path.isStandardOutput directory then .reading (.error .siteNeedsDirectory) files
  else
    match versions.mapM versionDirectory with
    | .error error => .reading (.error error) files
    | .ok names =>
        .writing (pagesOutcome files
          (sitePages directory (markup fragment catalog context)
            (versionMarkup fragment catalog context) names))

section

variable (fragment : Bool) (catalog : Catalog) (context : Context)

theorem endsAs_writeSite (directory : String) (versions : List String) :
    EndsAs (writeSite fragment catalog context directory versions)
      (siteEnding fragment catalog context directory versions) := by
  refine .of_becomes (fun files => ?_) fun start => ?_
  · rw [siteEnding]
    split
    · rfl
    · split <;> rfl
  · rw [siteEnding]
    split
    next standard =>
      rw [writeSite, if_pos standard]
      exact ⟨_, rfl, .silent _ _ _⟩
    next notStandard =>
      cases accepted : versions.mapM versionDirectory with
      | ok names =>
          have notStandard : Path.isStandardOutput directory = false := by
            simpa using notStandard
          exact run_writeSite fragment catalog context notStandard accepted start
      | error error =>
          rw [writeSite, if_neg notStandard, accepted]
          exact ⟨_, rfl, .silent _ _ _⟩

end

/-! ## Tasks -/

/-- The ending of loading a catalog. -/
def catalogEnding (path : String) (files : Files) : Ending Catalog :=
  .reading ((Catalog.inFiles files path).mapError (TaskError.catalog path)) files

theorem endsAs_loadCatalog (path : String) : EndsAs (loadCatalog path) (catalogEnding path) :=
  .of_becomes (fun _ => rfl) (run_loadCatalog path)

theorem endsAs_loadConfig (path? : Option String) :
    EndsAs (loadConfig path?) (fun files => .reading (files.settings path?) files) :=
  .of_becomes (fun _ => rfl) (run_loadConfig path?)

/-- A request to render writes a site exactly if it names no version and versions
are configured. -/
def RenderArguments.writesSite (arguments : RenderArguments) (config : Config) : Bool :=
  arguments.documentVersion.isNone && !config.versions.isEmpty

theorem RenderArguments.writesSite_eq_true (arguments : RenderArguments) (config : Config) :
    arguments.writesSite config = true ↔
      arguments.documentVersion = none ∧ config.versions ≠ [] := by
  simp [RenderArguments.writesSite]

/-- The ending of writing what is asked for: a site, or one page. -/
def RenderArguments.pagesEnding
    (arguments : RenderArguments)
    (config : Config)
    (catalog : Catalog) :
    Files → Ending Unit :=
  if arguments.writesSite config then
    siteEnding arguments.fragment catalog (arguments.contextOf config)
      (arguments.out.getD siteName) config.versions
  else
    outputEnding (arguments.out.getD pageName)
      (arguments.html config catalog arguments.documentVersion)

theorem endsAs_produce
    (arguments : RenderArguments)
    (config : Config)
    (catalog : Catalog) :
    EndsAs (produce arguments config catalog) (arguments.pagesEnding config catalog) := by
  rw [produce, RenderArguments.pagesEnding, RenderArguments.writesSite, RenderArguments.html]
  cases arguments.documentVersion with
  | some version =>
      exact .bind_answer (run_renderMarkup _ _ _) (endsAs_writeOutput _ _)
  | none =>
      cases config.versions.isEmpty with
      | true => exact .bind_answer (run_renderMarkup _ _ _) (endsAs_writeOutput _ _)
      | false => exact endsAs_writeSite _ _ _ _ _

def RenderArguments.ending
    (arguments : RenderArguments)
    (config : Config)
    (catalog : Catalog)
    (files : Files) :
    Ending Nat :=
  (arguments.pagesEnding config catalog files).andThen fun _ files => .reading (.ok 0) files

/-- A request to render that ends with an error ends so while pages are written. -/
theorem RenderArguments.pagesEnding_of_ending_error
    {arguments : RenderArguments}
    {config : Config}
    {catalog : Catalog}
    {files : Files}
    {error : TaskError}
    (failed : (arguments.ending config catalog files).result = .error error) :
    (arguments.pagesEnding config catalog files).result = .error error := by
  rw [ending, Ending.andThen] at failed
  cases result : (arguments.pagesEnding config catalog files).result with
  | error other =>
      rw [result] at failed
      cases failed
      rfl
  | ok value =>
      rw [result] at failed
      cases failed

theorem endsAs_render (arguments : RenderArguments) (config : Config) :
    EndsAs (render arguments config)
      (fun files => (catalogEnding arguments.catalog files).andThen (arguments.ending config)) := by
  refine (endsAs_loadCatalog arguments.catalog).bind fun catalog => ?_
  refine .bind_answer (run_announceContext (arguments.override config)) ?_
  have produced := (endsAs_produce arguments config catalog).bind fun _ => .pure 0
  rw [produce] at produced
  cases given : arguments.documentVersion with
  | some version =>
      rw [given] at produced
      exact produced
  | none =>
      have versions : (arguments.override config).versions = config.versions := rfl
      rw [given] at produced
      dsimp only at produced ⊢
      rw [versions]
      split at produced
      next single =>
        rw [if_pos single]
        exact produced
      next several =>
        rw [if_neg several]
        exact produced

/-! ## Lists -/

theorem ListArguments.contextOf_eq (arguments : ListArguments) (config : Config) :
    arguments.contextOf config =
      { Context.ofConfig config with version := arguments.documentVersion } := by
  rw [contextOf]
  cases arguments.documentVersion <;> rfl

def ListArguments.ending
    (arguments : ListArguments)
    (config : Config)
    (catalog : Catalog)
    (files : Files) :
    Ending Nat :=
  let cards := (arguments.contextOf config).cards catalog
  { result := .ok 0
    files
    printed := if arguments.json then jsonList cards else plainList cards }

theorem endsAs_list (arguments : ListArguments) (config : Config) :
    EndsAs (list arguments config)
      (fun files => (catalogEnding arguments.catalog files).andThen (arguments.ending config)) := by
  refine (endsAs_loadCatalog arguments.catalog).bind fun catalog => ?_
  refine .bind_answer (run_announceLinkStrategy config) ?_
  exact .of_becomes (fun _ => rfl) fun _ => ⟨_, rfl, rfl, rfl, rfl⟩

/-! ## Illustrations -/

theorem run_missingFiles (paths : List String) (start : Surroundings) :
    (missingFiles paths : Simulation _).run start = (start.files.missing paths, start) := by
  induction paths with
  | nil => rfl
  | cons path paths inductionHypothesis =>
      have answered : (Workspace.isFile path : Simulation _).run start =
        (start.files.kind? path == some .file, start) := rfl
      rw [missingFiles, Simulation.run_bind_of answered, Simulation.run_bind_of inductionHypothesis,
        Files.missing, Files.missing, List.filter_cons, bne]
      cases start.files.kind? path == some .file <;> rfl

/-- The report on the illustrations of so many reports. -/
def CheckArguments.report (arguments : CheckArguments) (count : Nat) (files : Files) : Ending Nat :=
  let wanted := toString (count * 2)
  let missing := files.missing
    ((illustrationNames count).map fun name => Path.join arguments.assets name)
  if missing.isEmpty then
    { result := .ok 0
      files
      printed := "ok: " ++ toString count ++ " reports, " ++ wanted ++ " illustrations\n" }
  else
    { result := .ok 1
      files
      printed := String.join (missing.map fun path => "missing: " ++ path ++ "\n")
      complained :=
        "[reports-gen] " ++ toString missing.length ++ " of " ++ wanted
          ++ " illustrations missing\n" }

def CheckArguments.ending
    (arguments : CheckArguments)
    (catalog : Catalog)
    (files : Files) :
    Ending Nat :=
  if files.isDirectory arguments.assets then arguments.report catalog.size files
  else .reading (.error (.assetsNotFound arguments.assets)) files

theorem endsAs_check (arguments : CheckArguments) :
    EndsAs (check arguments)
      (fun files => (catalogEnding arguments.catalog files).andThen arguments.ending) := by
  refine (endsAs_loadCatalog arguments.catalog).bind fun catalog => ?_
  intro start
  have looked : (Workspace.isDirectory arguments.assets : Simulation _).run start =
    (start.files.isDirectory arguments.assets, start) := rfl
  have searched := run_missingFiles
    ((illustrationNames catalog.size).map fun name => Path.join arguments.assets name) start
  rw [run_bind_ok (run_lift looked), CheckArguments.ending]
  cases start.files.isDirectory arguments.assets with
  | false => exact ⟨start, rfl, rfl, String.append_empty.symm, String.append_empty.symm⟩
  | true =>
      rw [if_neg (by simp), missingIllustrations, run_bind_ok (run_lift searched), if_pos rfl,
        CheckArguments.report]
      split
      · exact ⟨_, rfl, rfl, rfl, String.append_empty.symm⟩
      · exact ⟨_, rfl, rfl, rfl, rfl⟩

/-! ## Requests -/

/-- The catalog that a task reads. -/
def Task.catalogPath : Task → String
  | .render arguments => arguments.catalog
  | .check arguments => arguments.catalog
  | .list arguments => arguments.catalog

/-- The ending of a task once its catalog is loaded. -/
def Task.ending (config : Config) (catalog : Catalog) : Task → Files → Ending Nat
  | .render arguments => arguments.ending config catalog
  | .check arguments => arguments.ending catalog
  | .list arguments => arguments.ending config catalog

/-- The ending of a request: settings, catalog, then what its task does. -/
def Request.ending (request : Request) (files : Files) : Ending Nat :=
  (Ending.reading (files.settings request.config) files).andThen fun config files =>
    (catalogEnding request.task.catalogPath files).andThen fun catalog =>
      request.task.ending config catalog

theorem endsAs_run (request : Request) : EndsAs (run request) request.ending := by
  refine (endsAs_loadConfig request.config).bind fun config => ?_
  cases request.task with
  | render arguments => exact endsAs_render arguments config
  | check arguments => exact endsAs_check arguments
  | list arguments => exact endsAs_list arguments config

section

variable {request : Request} {files : Files}

theorem Request.ending_of_settings_error
    {error : TaskError}
    (settings : files.settings request.config = .error error) :
    request.ending files = .reading (.error error) files := by
  rw [ending, settings, Ending.andThen_reading_error]

variable {config : Config} (settings : files.settings request.config = .ok config)

include settings

theorem Request.ending_of_catalog_error
    {error : LoadError}
    (faulty : Catalog.inFiles files request.task.catalogPath = .error error) :
    request.ending files = .reading (.error (.catalog request.task.catalogPath error)) files := by
  rw [ending, settings, Ending.andThen_reading_ok, catalogEnding, faulty]
  exact Ending.andThen_reading_error _ _ _

theorem Request.ending_of_loaded
    {catalog : Catalog}
    (found : Catalog.inFiles files request.task.catalogPath = .ok catalog) :
    request.ending files = request.task.ending config catalog files := by
  rw [ending, settings, Ending.andThen_reading_ok, catalogEnding, found]
  exact Ending.andThen_reading_ok _ _ _

end

/-- Requests that read the same files and then do the same end in the same way. -/
theorem Request.ending_congr
    {request other : Request}
    {files : Files}
    (sameSettings : request.config = other.config)
    (sameCatalog : request.task.catalogPath = other.task.catalogPath)
    (sameTask : ∀ config catalog, files.settings request.config = .ok config →
      request.task.ending config catalog files = other.task.ending config catalog files) :
    request.ending files = other.ending files := by
  cases settings : files.settings request.config with
  | error error =>
      rw [ending_of_settings_error settings, ending_of_settings_error (sameSettings ▸ settings)]
  | ok config =>
      have settingsOther : files.settings other.config = .ok config := sameSettings ▸ settings
      cases found : Catalog.inFiles files request.task.catalogPath with
      | error error =>
          rw [ending_of_catalog_error settings found,
            ending_of_catalog_error settingsOther (sameCatalog ▸ found), sameCatalog]
      | ok catalog =>
          rw [ending_of_loaded settings found, ending_of_loaded settingsOther (sameCatalog ▸ found),
            sameTask config catalog settings]

/-- **Every request is carried out to its ending**, with the error shown if there
is one. -/
theorem perform_leaves (request : Request) (start : Surroundings) :
    ∃ final,
      (perform request : Simulation Nat).run start = ((request.ending start.files).status, final)
        ∧ (request.ending start.files).shown.Leaves start final := by
  obtain ⟨after, ran, leaves⟩ := endsAs_run request (started start)
  rw [files_started] at ran leaves
  have recorded : (Workspace.record startEvent : Simulation Unit).run start =
      ((), started start) := rfl
  rw [perform, Simulation.run_bind_of recorded, Simulation.run_bind_of ran, Ending.status,
    Ending.shown]
  cases result : (request.ending start.files).result with
  | ok status => exact ⟨after, rfl, leaves.files, leaves.output, leaves.complaints⟩
  | error error =>
      refine ⟨_, rfl, leaves.files, leaves.output, ?_⟩
      rw [← String.append_assoc]
      exact congrArg (· ++ _) leaves.complaints

end Command

end ReportIndex
