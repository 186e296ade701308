import ReportIndex.Proofs.Command.FreshSite
import ReportIndex.Proofs.Command.RequestEnding

/-!
Contract: requests that are refused leave no trace.

Owns:
- the reasons to refuse a request: its settings, its catalog, its directories or
  one of its versions;
- the ending of a refused request, and of which endings refusals are the cause.

Does not own: what goes wrong while pages are written.
-/

namespace ReportIndex.Command

/-- Whether the error comes up only while pages are written. -/
def TaskError.isWriting : TaskError → Bool
  | .createDirectory _ _ => true
  | .writePage _ _ => true
  | _ => false

/-- A reason why a request is not carried out. -/
inductive Refused (files : Files) (request : Request) : Prop where
  | settingsMissing
      {path : String}
      (named : request.config = some path)
      (notFile : files.kind? path ≠ some .file)
  /-- The catalog cannot be read, is malformed, or has a blank target. -/
  | catalogFaulty
      {error : LoadError}
      (faulty : Catalog.inFiles files request.task.catalogPath = .error error)
  | assetsMissing
      {arguments : CheckArguments}
      (task : request.task = .check arguments)
      (notDirectory : files.isDirectory arguments.assets = false)
  /-- One of the versions of a site cannot be the name of a directory. -/
  | versionUnusable
      {arguments : RenderArguments}
      {config : Config}
      {version : String}
      {error : TaskError}
      (task : request.task = .render arguments)
      (unversioned : arguments.documentVersion = none)
      (settings : files.settings request.config = .ok config)
      (configured : version ∈ config.versions)
      (rejected : versionDirectory version = .error error)
  /-- A site is to be written to the standard output. -/
  | siteToOutput
      {arguments : RenderArguments}
      {config : Config}
      (task : request.task = .render arguments)
      (unversioned : arguments.documentVersion = none)
      (settings : files.settings request.config = .ok config)
      (several : config.versions ≠ [])
      (standard : Path.isStandardOutput (arguments.out.getD siteName) = true)

/-! ## Reasons and errors -/

theorem settings_eq_error
    {files : Files}
    {path? : Option String}
    {error : TaskError}
    (settings : files.settings path? = .error error) :
    ∃ path, path? = some path ∧ files.kind? path ≠ some .file ∧ error = .configNotFound path := by
  cases path? with
  | none => cases settings
  | some path =>
      rw [Files.settings] at settings
      split at settings
      next => cases settings
      next notFile =>
        cases settings
        exact ⟨path, rfl, by simpa using notFile, rfl⟩

theorem versionDirectory_eq_error
    {version : String}
    {error : TaskError}
    (rejected : versionDirectory version = .error error) :
    error = .unusableVersion version := by
  rw [versionDirectory] at rejected
  split at rejected
  next =>
    cases rejected
    rfl
  next => cases rejected

/-- The first version that is no name of a directory is the one that is reported. -/
theorem mapM_versionDirectory_eq_error
    {versions : List String}
    {error : TaskError}
    (rejected : versions.mapM versionDirectory = .error error) :
    ∃ earlier version later,
      versions = earlier ++ version :: later
        ∧ (∀ other ∈ earlier, Usable other)
        ∧ versionDirectory version = .error error := by
  induction versions with
  | nil => cases rejected
  | cons first versions inductionHypothesis =>
      rw [List.mapM_cons] at rejected
      cases outcome : versionDirectory first with
      | error firstError =>
          rw [outcome] at rejected
          cases rejected
          exact ⟨[], first, versions, rfl, by simp, outcome⟩
      | ok name =>
          rw [outcome] at rejected
          cases rest : versions.mapM versionDirectory with
          | ok names =>
              rw [rest] at rejected
              cases rejected
          | error laterError =>
              rw [rest] at rejected
              cases rejected
              obtain ⟨earlier, version, later, rfl, usable, later⟩ := inductionHypothesis rest
              have firstUsable := ((versionDirectory_eq_ok first name).mp outcome).1
              exact ⟨first :: earlier, version, _, rfl,
                List.forall_mem_cons.mpr ⟨firstUsable, usable⟩, later⟩

theorem isWriting_of_pageOutcome
    {files : Files}
    {path html : String}
    {error : TaskError}
    (failed : (pageOutcome files path html).1 = .error error) :
    error.isWriting = true := by
  rw [pageOutcome, parentOutcome] at failed
  generalize files.ensureDirectories ((Path.parent? path).getD "") = ensured at failed
  rcases ensured with ⟨ioError | ⟨⟨⟩⟩, made⟩
  · cases failed
    rfl
  · dsimp only at failed
    split at failed
    · cases failed
      rfl
    · cases failed

theorem isWriting_of_outputEnding
    {path html : String}
    {files : Files}
    {error : TaskError}
    (failed : (outputEnding path html files).result = .error error) :
    error.isWriting = true := by
  rw [outputEnding] at failed
  split at failed
  next => cases failed
  next => exact isWriting_of_pageOutcome failed

theorem isWriting_of_pagesOutcome
    {files : Files}
    {pages : List (String × String)}
    {error : TaskError}
    (failed : (pagesOutcome files pages).1 = .error error) :
    error.isWriting = true := by
  induction pages generalizing files with
  | nil => cases failed
  | cons page pages inductionHypothesis =>
      obtain ⟨path, html⟩ := page
      rw [pagesOutcome_cons] at failed
      rcases outcome : pageOutcome files path html with ⟨pageError | ⟨⟨⟩⟩, written⟩
      · rw [outcome] at failed
        cases failed
        exact isWriting_of_pageOutcome (congrArg Prod.fst outcome)
      · rw [outcome] at failed
        exact inductionHypothesis failed

/-! ## Sites -/

section

variable
  {fragment : Bool}
  {catalog : Catalog}
  {context : Context}
  {directory : String}
  {versions : List String}
  {files : Files}

/-- With a reason against it, no part of a site is written. -/
theorem siteEnding_refused
    (reason : Path.isStandardOutput directory = true
      ∨ ∃ version ∈ versions, ∃ error, versionDirectory version = .error error) :
    ∃ error, error.isWriting = false
      ∧ siteEnding fragment catalog context directory versions files =
          .reading (.error error) files := by
  rw [siteEnding]
  split
  next => exact ⟨.siteNeedsDirectory, rfl, rfl⟩
  next notStandard =>
    obtain ⟨version, configured, error, rejected⟩ := reason.resolve_left notStandard
    cases accepted : versions.mapM versionDirectory with
    | error error =>
        obtain ⟨_, other, _, _, _, otherRejected⟩ := mapM_versionDirectory_eq_error accepted
        exact ⟨error, by rw [versionDirectory_eq_error otherRejected]; rfl, rfl⟩
    | ok names =>
        have usable := ((mapM_versionDirectory_eq_ok versions names).mp accepted).1
        have named := (versionDirectory_eq_ok version _).mpr ⟨usable version configured, rfl⟩
        rw [named] at rejected
        cases rejected

theorem reason_of_siteEnding
    {error : TaskError}
    (failed : (siteEnding fragment catalog context directory versions files).result = .error error)
    (notWriting : error.isWriting = false) :
    Path.isStandardOutput directory = true
      ∨ ∃ version ∈ versions, ∃ error, versionDirectory version = .error error := by
  rw [siteEnding] at failed
  split at failed
  next standard => exact .inl standard
  next =>
    cases accepted : versions.mapM versionDirectory with
    | error error =>
        obtain ⟨earlier, version, later, rfl, _, rejected⟩ :=
          mapM_versionDirectory_eq_error accepted
        exact .inr ⟨version, by simp, error, rejected⟩
    | ok names =>
        rw [accepted] at failed
        rw [isWriting_of_pagesOutcome failed] at notWriting
        cases notWriting

end

/-! ## Requests -/

section

variable {files : Files} {request : Request}

/-- With a reason against its site, a request to render ends with nothing written. -/
theorem RenderArguments.ending_refused
    {arguments : RenderArguments}
    {config : Config}
    {catalog : Catalog}
    (unversioned : arguments.documentVersion = none)
    (several : config.versions ≠ [])
    (reason : Path.isStandardOutput (arguments.out.getD siteName) = true
      ∨ ∃ version ∈ config.versions, ∃ error, versionDirectory version = .error error) :
    ∃ error, error.isWriting = false
      ∧ arguments.ending config catalog files = .reading (.error error) files := by
  obtain ⟨error, notWriting, ended⟩ := siteEnding_refused reason
  have writes := (arguments.writesSite_eq_true config).mpr ⟨unversioned, several⟩
  refine ⟨error, notWriting, ?_⟩
  rw [ending, pagesEnding, if_pos writes, ended, Ending.andThen_reading_error]

/-- A reason against a request that finds its settings and its catalog is one
against its task. -/
theorem Refused.task_ending_eq
    (refused : Refused files request)
    {config : Config}
    {catalog : Catalog}
    (settings : files.settings request.config = .ok config)
    (found : Catalog.inFiles files request.task.catalogPath = .ok catalog) :
    ∃ error, error.isWriting = false
      ∧ request.task.ending config catalog files = .reading (.error error) files := by
  cases refused with
  | settingsMissing named notFile =>
      rw [named, Files.settings, if_neg (by simpa using notFile)] at settings
      cases settings
  | catalogFaulty faulty =>
      rw [faulty] at found
      cases found
  | @assetsMissing arguments task notDirectory =>
      refine ⟨.assetsNotFound arguments.assets, rfl, ?_⟩
      rw [task, Task.ending, CheckArguments.ending, if_neg (by simp [notDirectory])]
  | versionUnusable task unversioned own configured rejected =>
      cases own.symm.trans settings
      rw [task]
      exact RenderArguments.ending_refused unversioned (List.ne_nil_of_mem configured)
        (.inr ⟨_, configured, _, rejected⟩)
  | siteToOutput task unversioned own several standard =>
      cases own.symm.trans settings
      rw [task]
      exact RenderArguments.ending_refused unversioned several (.inl standard)

theorem Refused.ending_eq (refused : Refused files request) :
    ∃ error, error.isWriting = false ∧ request.ending files = .reading (.error error) files := by
  cases settings : files.settings request.config with
  | error error =>
      obtain ⟨path, _, _, rfl⟩ := settings_eq_error settings
      exact ⟨_, rfl, Request.ending_of_settings_error settings⟩
  | ok config =>
      cases found : Catalog.inFiles files request.task.catalogPath with
      | error error => exact ⟨_, rfl, Request.ending_of_catalog_error settings found⟩
      | ok catalog =>
          rw [Request.ending_of_loaded settings found]
          exact refused.task_ending_eq settings found

/-- An error of a task that is none of writing has its reason in the request. -/
theorem refused_of_task_ending
    {config : Config}
    {catalog : Catalog}
    {error : TaskError}
    (settings : files.settings request.config = .ok config)
    (failed : (request.task.ending config catalog files).result = .error error)
    (notWriting : error.isWriting = false) :
    Refused files request := by
  cases task : request.task with
  | list arguments =>
      rw [task] at failed
      cases failed
  | check arguments =>
      rw [task, Task.ending, CheckArguments.ending] at failed
      split at failed
      next =>
        rw [CheckArguments.report] at failed
        split at failed <;> cases failed
      next notDirectory => exact .assetsMissing task (by simpa using notDirectory)
  | render arguments =>
      rw [task, Task.ending] at failed
      have failed := RenderArguments.pagesEnding_of_ending_error failed
      rw [RenderArguments.pagesEnding] at failed
      split at failed
      next writes =>
        obtain ⟨unversioned, several⟩ := (arguments.writesSite_eq_true config).mp writes
        rcases reason_of_siteEnding failed notWriting with standard | rejected
        · exact .siteToOutput task unversioned settings several standard
        · obtain ⟨version, configured, _, rejected⟩ := rejected
          exact .versionUnusable task unversioned settings configured rejected
      next =>
        -- A single page fails only while it is written.
        rw [isWriting_of_outputEnding failed] at notWriting
        cases notWriting

/-- Only a request that is refused ends with an error that is not one of writing. -/
theorem refused_iff :
    Refused files request ↔
      ∃ error, (request.ending files).result = .error error ∧ error.isWriting = false := by
  constructor
  · intro refused
    obtain ⟨error, notWriting, ended⟩ := refused.ending_eq
    exact ⟨error, by rw [ended, Ending.reading], notWriting⟩
  · rintro ⟨error, failed, notWriting⟩
    cases settings : files.settings request.config with
    | error error =>
        obtain ⟨path, named, notFile, _⟩ := settings_eq_error settings
        exact .settingsMissing named notFile
    | ok config =>
        cases found : Catalog.inFiles files request.task.catalogPath with
        | error error => exact .catalogFaulty found
        | ok catalog =>
            rw [Request.ending_of_loaded settings found] at failed
            exact refused_of_task_ending settings failed notWriting

end

/-- **A request that is refused leaves no trace**: its exit status is one, nothing is
printed and the file system is as before. Only the error is shown, which is none
of writing. -/
theorem refused_leaves_no_trace
    {request : Request}
    {start : Surroundings}
    (refused : Refused start.files request) :
    ∃ error final,
      (perform request : Simulation Nat).run start = (1, final)
        ∧ final.files = start.files
        ∧ final.output = start.output
        ∧ final.complaints = start.complaints ++ (errorLine error ++ "\n")
        ∧ error.isWriting = false := by
  obtain ⟨error, notWriting, ended⟩ := refused.ending_eq
  obtain ⟨final, performed, leaves⟩ := perform_leaves request start
  rw [ended] at performed leaves
  refine ⟨error, final, performed, leaves.files, ?_, ?_, notWriting⟩
  · rw [leaves.output]
    exact String.append_empty
  · rw [leaves.complaints]
    exact congrArg (start.complaints ++ ·) String.empty_append

/-- A site with a version that leads out of it, behind one that could be written. -/
theorem refused_unusable_second_version :
    ∃ final,
      (perform smallRequest : Simulation Nat).run
          (smallStart "versions = [\"v1\", \" .. \", \"v2\"]\n") = (1, final)
        ∧ final.files = smallFiles "versions = [\"v1\", \" .. \", \"v2\"]\n"
        ∧ final.output = "" := by
  have parsed : Config.ofToml "versions = [\"v1\", \" .. \", \"v2\"]\n" =
      .ok { versions := ["v1", " .. ", "v2"] } := by
    cbv
  have rejected : versionDirectory " .. " = .error (.unusableVersion " .. ") := by
    cbv
  have refused :
      Refused (smallStart "versions = [\"v1\", \" .. \", \"v2\"]\n").files smallRequest :=
    .versionUnusable rfl rfl (renders_small parsed).settings (by simp) rejected
  obtain ⟨_, final, performed, files, output, _⟩ := refused_leaves_no_trace refused
  exact ⟨final, performed, files, output⟩

end ReportIndex.Command
