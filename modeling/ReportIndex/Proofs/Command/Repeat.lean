import ReportIndex.Proofs.Command.FreshSite
import ReportIndex.Proofs.Command.RequestEnding
import ReportIndex.Proofs.Workspace.Change
import ReportIndex.Proofs.Workspace.Repeat

/-!
Contract: rendering once more after a run that has ended well.

Owns:
- pages that have been written, and writing the same ones again;
- settings and catalogs that are read again after pages have been written elsewhere;
- the paths of the files that a request to render writes.

Does not own: what the pages hold, and when a first run ends well.
-/

namespace ReportIndex.Command

open Files (ChangesAt)

/-! ## Written pages -/

/-- A page has been written to the path: its directory is there, and to write again
only replaces the file. -/
structure Settled (files : Files) (path : String) : Prop where
  directory : files.ensureDirectories ((Path.parent? path).getD "") = (.ok (), files)
  isFile : ∃ content, files.entry? (files.place path) = some (.file content)
  replaces :
    ∀ content, files.write path content = .ok (files.put (files.place path) (.file content))

theorem Settled.pageOutcome
    {files : Files}
    {path : String}
    (settled : Settled files path)
    (html : String) :
    Command.pageOutcome files path html =
      (.ok (), files.put (files.place path) (.file html.toUTF8)) :=
  (pageOutcome_eq_ok _ _ _ _).mpr ⟨files, settled.directory, settled.replaces _⟩

/-- Pages that are written and directories that are created elsewhere leave a written
page where it is. -/
theorem Settled.of_changes
    {pages directories : String → Prop}
    {earlier later : Files}
    {path : String}
    (settled : Settled earlier path)
    (changes : ChangesAt pages directories earlier later) :
    Settled later path := by
  obtain ⟨before, isFile⟩ := settled.isFile
  obtain ⟨content, isFile⟩ := changes.exists_file isFile
  rw [← changes.place] at isFile
  refine ⟨changes.keeps.ensureDirectories settled.directory, ⟨content, isFile⟩, fun other => ?_⟩
  exact changes.keeps.write (settled.replaces before) (by rw [isFile]; simp) other

section

variable {earlier later : Files} {path html : String}
  (outcome : pageOutcome earlier path html = (.ok (), later))

include outcome

theorem changes_of_pageOutcome
    {pages : String → Prop}
    (allowed : pages path) :
    ChangesAt pages (fun _ => True) earlier later := by
  obtain ⟨made, ensured, wrote⟩ := (pageOutcome_eq_ok _ _ _ _).mp outcome
  have above := ChangesAt.of_ensureDirectoriesUpTo pages
    (((Path.parent? path).getD "").length + 1) earlier ((Path.parent? path).getD "")
  rw [← Files.ensureDirectories, ensured] at above
  exact above.trans (.of_write allowed wrote)

theorem file_of_pageOutcome : later.entry? (later.place path) = some (.file html.toUTF8) := by
  obtain ⟨made, _, wrote⟩ := (pageOutcome_eq_ok _ _ _ _).mp outcome
  exact ((Files.read_eq_ok _ _ _).mp (Files.read_of_write wrote)).2.1

theorem settled_of_pageOutcome : Settled later path := by
  have isFile := file_of_pageOutcome outcome
  obtain ⟨made, ensured, wrote⟩ := (pageOutcome_eq_ok _ _ _ _).mp outcome
  have keeps := Files.keeps_of_write wrote
  exact ⟨keeps.ensureDirectories ensured, ⟨_, isFile⟩,
    keeps.write wrote (by rw [isFile]; simp)⟩

end

theorem pagesOutcome_cons_eq_ok
    (files later : Files)
    (path html : String)
    (pages : List (String × String)) :
    pagesOutcome files ((path, html) :: pages) = (.ok (), later) ↔
      ∃ middle, pageOutcome files path html = (.ok (), middle)
        ∧ pagesOutcome middle pages = (.ok (), later) := by
  rw [pagesOutcome_cons]
  rcases pageOutcome files path html with ⟨error | ⟨⟨⟩⟩, middle⟩ <;> simp

theorem changes_of_pagesOutcome
    {earlier later : Files}
    {pages : List (String × String)}
    (outcome : pagesOutcome earlier pages = (.ok (), later)) :
    ChangesAt (· ∈ pages.map Prod.fst) (fun _ => True) earlier later := by
  suffices within : ∀ paths : String → Prop, (∀ page ∈ pages, paths page.1) →
      ChangesAt paths (fun _ => True) earlier later from
    within _ fun _ => List.mem_map_of_mem
  intro paths allowed
  induction pages generalizing earlier with
  | nil =>
      cases outcome
      exact .refl _ _ _
  | cons page pages inductionHypothesis =>
      rw [List.forall_mem_cons] at allowed
      obtain ⟨middle, first, rest⟩ := (pagesOutcome_cons_eq_ok _ _ _ _ _).mp outcome
      exact (changes_of_pageOutcome first allowed.1).trans (inductionHypothesis rest allowed.2)

theorem settled_of_pagesOutcome
    {earlier later : Files}
    {pages : List (String × String)}
    (outcome : pagesOutcome earlier pages = (.ok (), later)) :
    ∀ page ∈ pages, Settled later page.1 := by
  induction pages generalizing earlier with
  | nil => exact fun _ member => nomatch member
  | cons page pages inductionHypothesis =>
      obtain ⟨middle, first, rest⟩ := (pagesOutcome_cons_eq_ok _ _ _ _ _).mp outcome
      exact List.forall_mem_cons.mpr
        ⟨(settled_of_pageOutcome first).of_changes (changes_of_pagesOutcome rest),
          inductionHypothesis rest⟩

/-! ## The same pages again -/

/-- The file systems differ only where pages are still to be written. -/
structure SameBut (pages : List (String × String)) (files later : Files) : Prop where
  workingDirectory : files.workingDirectory = later.workingDirectory
  entries :
    ∀ location, files.entry? location = later.entry? location
      ∨ later.Named (· ∈ pages.map Prod.fst) location

/-- What a page is written over does not matter once the later ones have been written. -/
theorem SameBut.put
    {middle files later : Files}
    {path html : String}
    {pages : List (String × String)}
    (same : SameBut ((path, html) :: pages) files later)
    (settled : Settled files path)
    (isFile : middle.entry? (middle.place path) = some (.file html.toUTF8))
    (changes : ChangesAt (· ∈ pages.map Prod.fst) (fun _ => True) middle later) :
    SameBut pages (files.put (files.place path) (.file html.toUTF8)) later := by
  have place : files.place path = later.place path := by
    rw [Files.place, Files.place, Files.start, Files.start, same.workingDirectory]
  have notRoot : files.place path ≠ [] := by
    obtain ⟨content, present⟩ := settled.isFile
    exact Files.ne_nil_of_ne_directory (by rw [present]; simp)
  refine ⟨same.workingDirectory, fun location => ?_⟩
  rw [Files.put_apply files notRoot]
  split
  next here =>
    subst here
    rw [place, changes.place]
    rcases changes.entries (middle.place path) with kept | ⟨⟨other, isPage, there⟩, _⟩ | made
    · exact .inl (by rw [kept, isFile])
    · exact .inr ⟨other, isPage, by rw [changes.place, there]⟩
    · rw [isFile] at made
      cases made.2.1
  next elsewhere =>
    rcases same.entries location with equal | ⟨other, isPage, there⟩
    · exact .inl equal
    · rw [List.map_cons, List.mem_cons] at isPage
      rcases isPage with rfl | isPage
      · exact absurd (place.trans there).symm elsewhere
      · exact .inr ⟨other, isPage, there⟩

/-- Pages that have all been written can be written again over files that differ only in
them, and the file system is as it was after the first time. -/
theorem pagesOutcome_again
    {earlier files later : Files}
    {pages : List (String × String)}
    (outcome : pagesOutcome earlier pages = (.ok (), later))
    (settled : ∀ page ∈ pages, Settled files page.1)
    (same : SameBut pages files later) :
    ∃ latest, pagesOutcome files pages = (.ok (), latest) ∧ latest.SameAs later := by
  induction pages generalizing earlier files with
  | nil =>
      refine ⟨files, rfl, same.workingDirectory, fun location => ?_⟩
      refine (same.entries location).resolve_right ?_
      rintro ⟨_, isPage, _⟩
      cases isPage
  | cons page pages inductionHypothesis =>
      obtain ⟨path, html⟩ := page
      rw [List.forall_mem_cons] at settled
      obtain ⟨middle, first, rest⟩ := (pagesOutcome_cons_eq_ok _ _ _ _ _).mp outcome
      have replaced : pageOutcome files path html = _ := settled.1.pageOutcome html
      have changed : ChangesAt (· = path) (fun _ => False) files _ :=
        .of_write rfl (settled.1.replaces html.toUTF8)
      obtain ⟨latest, again, sameAs⟩ := inductionHypothesis rest
        (fun page member => (settled.2 page member).of_changes changed)
        (same.put settled.1 (file_of_pageOutcome first) (changes_of_pagesOutcome rest))
      exact ⟨latest, (pagesOutcome_cons_eq_ok _ _ _ _ _).mpr ⟨_, replaced, again⟩, sameAs⟩

/-! ## The same settings and catalog -/

section

variable {pages directories : String → Prop} {earlier later : Files}
  (changes : ChangesAt pages directories earlier later)

include changes

theorem settings_of_changes
    {path? : Option String}
    {config : Config}
    (present : path? = none → earlier.Leads ("/" ++ "/".intercalate earlier.workingDirectory))
    (unwritten : ¬earlier.Named pages (earlier.place (earlier.settingsPath path?)))
    (settings : earlier.settings path? = .ok config) :
    later.settings path? = .ok config := by
  obtain ⟨isFile, inFiles⟩ := (Files.settings_eq_ok _ _ _).mp settings
  have samePath : later.settingsPath path? = earlier.settingsPath path? := by
    rw [Files.settingsPath, Files.settingsPath, changes.workingDirectory]
  have reached : later.Reaches (earlier.settingsPath path?) →
      earlier.Reaches (earlier.settingsPath path?) := by
    intro reaches
    cases path? with
    | none =>
        exact (Files.reaches_join (by decide) earlier _).mpr ⟨reaches.askable, present rfl⟩
    | some path =>
        obtain ⟨content, read⟩ := Files.exists_read_of_kind? (isFile path rfl)
        exact ((Files.read_eq_ok _ _ _).mp read).1
  have same := changes.read_iff unwritten reached
  refine (Files.settings_eq_ok _ _ _).mpr ⟨?_, ?_⟩
  · rintro path rfl
    exact (Files.kind?_eq_file_congr same).mpr (isFile path rfl)
  · rw [samePath, Config.inFiles_congr same, inFiles]

theorem catalog_of_changes
    {path : String}
    {catalog : Catalog}
    (unwritten : ¬earlier.Named pages (earlier.place path))
    (found : Catalog.inFiles earlier path = .ok catalog) :
    Catalog.inFiles later path = .ok catalog := by
  obtain ⟨content, read⟩ := Catalog.exists_read_of_inFiles found
  have reaches := ((Files.read_eq_ok _ _ _).mp read).1
  exact Catalog.inFiles_congr (changes.read_iff unwritten fun _ => reaches) found

end

/-! ## Requests to render -/

theorem pagesOutcome_singleton (files : Files) (path html : String) :
    pagesOutcome files [(path, html)] = pageOutcome files path html := by
  rw [pagesOutcome_cons]
  rcases pageOutcome files path html with ⟨error | ⟨⟨⟩⟩, written⟩ <;> rfl

/-- What keeps a site from being written, its files apart, is the same wherever it is
written to. -/
theorem siteEnding_of_ok
    {fragment : Bool}
    {catalog : Catalog}
    {context : Context}
    {directory : String}
    {versions : List String}
    {files : Files}
    (succeeded : (siteEnding fragment catalog context directory versions files).result = .ok ())
    (other : Files) :
    siteEnding fragment catalog context directory versions other =
      .writing (pagesOutcome other
        (sitePages directory (markup fragment catalog context)
          (versionMarkup fragment catalog context) (versions.map Text.trim))) := by
  rw [siteEnding] at succeeded ⊢
  split at succeeded
  next => cases succeeded
  next notStandard =>
    rw [if_neg notStandard]
    cases accepted : versions.mapM versionDirectory with
    | error error =>
        rw [accepted] at succeeded
        cases succeeded
    | ok names =>
        obtain ⟨_, rfl⟩ := (mapM_versionDirectory_eq_ok _ _).mp accepted
        rfl

/-- A request to render that has ended well. -/
def Ending.done (files : Files) (printed : String) : Ending Nat :=
  { result := .ok 0, files, printed }

theorem perform_of_ending_eq_done
    {request : Request}
    {start : Surroundings}
    {later : Files}
    {printed : String}
    (ends : request.ending start.files = .done later printed) :
    ∃ final,
      (perform request : Simulation Nat).run start = (0, final)
        ∧ final.output = start.output ++ printed
        ∧ final.files = later := by
  obtain ⟨final, ran, leaves⟩ := perform_leaves request start
  rw [ends] at ran leaves
  exact ⟨final, ran, leaves.output, leaves.files⟩

namespace RenderArguments

variable (arguments : RenderArguments) (config : Config) (catalog : Catalog)

/-- The paths of the files that are written, in this order. -/
def targets : List String :=
  if arguments.writesSite config then
    Path.join (arguments.out.getD siteName) pageName :: config.versions.map arguments.pagePath
  else if Path.isStandardOutput (arguments.out.getD pageName) then []
  else [arguments.out.getD pageName]

/-- The pages that are written to files, with their paths. -/
def pages : List (String × String) :=
  if arguments.writesSite config then arguments.site config catalog
  else if Path.isStandardOutput (arguments.out.getD pageName) then []
  else
    [(arguments.out.getD pageName, arguments.html config catalog arguments.documentVersion)]

theorem map_fst_pages :
    (arguments.pages config catalog).map Prod.fst = arguments.targets config := by
  rw [pages, targets]
  split
  · simp only [site, sitePages, versionPages, List.map_cons, List.map_map]
    rfl
  · split <;> rfl

variable {arguments config catalog}

/-- The files that a request finds make no difference to what it writes and prints, once
it has ended well for some. -/
theorem pagesEnding_of_ok
    {files : Files}
    (succeeded : (arguments.pagesEnding config catalog files).result = .ok ()) :
    ∃ printed, ∀ other, arguments.pagesEnding config catalog other =
      { Ending.writing (pagesOutcome other (arguments.pages config catalog)) with printed } := by
  rw [pagesEnding] at succeeded ⊢
  rw [pages]
  by_cases writesSite : arguments.writesSite config
  · rw [if_pos writesSite] at succeeded ⊢
    rw [if_pos writesSite]
    exact ⟨"", fun other => siteEnding_of_ok succeeded other⟩
  · rw [if_neg writesSite, if_neg writesSite]
    by_cases standard : Path.isStandardOutput (arguments.out.getD pageName)
    · refine ⟨arguments.html config catalog arguments.documentVersion ++ "\n", fun other => ?_⟩
      rw [outputEnding, if_pos standard, if_pos standard]
      rfl
    · refine ⟨"", fun other => ?_⟩
      rw [outputEnding, if_neg standard, if_neg standard, pagesOutcome_singleton]
      rfl

/-- A request to render that ends well has written its pages, and prints the same
whenever they can be written. -/
theorem exists_printed_of_status
    {files : Files}
    (succeeded : (arguments.ending config catalog files).status = 0) :
    ∃ printed later,
      pagesOutcome files (arguments.pages config catalog) = (.ok (), later)
        ∧ ∀ other latest,
          pagesOutcome other (arguments.pages config catalog) = (.ok (), latest) →
          arguments.ending config catalog other = .done latest printed := by
  have result : (arguments.pagesEnding config catalog files).result = .ok () := by
    rw [ending, Ending.andThen, Ending.status] at succeeded
    cases outcome : (arguments.pagesEnding config catalog files).result with
    | ok value => rfl
    | error error =>
        rw [outcome] at succeeded
        cases succeeded
  obtain ⟨printed, uniform⟩ := pagesEnding_of_ok result
  rw [uniform] at result
  refine ⟨printed, _, Prod.ext result rfl, fun other latest outcome => ?_⟩
  rw [ending, uniform, outcome]
  simp [Ending.andThen, Ending.writing, Ending.reading, Ending.done]

end RenderArguments

/-- **Rendering is repeatable.** If no page is written over the catalog, nor where the
settings are looked for, the same request ends well again, prints the same, and leaves
every file and directory as it finds it. The working directory has to be there, as it is
for every program that runs. -/
theorem rendering_repeatable
    {request : Request}
    {arguments : RenderArguments}
    {config : Config}
    {start final : Surroundings}
    (task : request.task = .render arguments)
    (settings : start.files.settings request.config = .ok config)
    (present :
      request.config = none →
        start.files.Leads ("/" ++ "/".intercalate start.files.workingDirectory))
    (performed : (perform request : Simulation Nat).run start = (0, final))
    (elsewhere :
      ∀ target ∈ arguments.targets config,
        start.files.place target ≠ start.files.place arguments.catalog
          ∧ start.files.place target ≠
              start.files.place (start.files.settingsPath request.config)) :
    ∃ printed,
      final.output = start.output ++ printed
        ∧ ∀ next : Surroundings, next.files = final.files →
          ∃ again,
            (perform request : Simulation Nat).run next = (0, again)
              ∧ again.output = next.output ++ printed
              ∧ again.files.SameAs final.files := by
  obtain ⟨catalog, renders⟩ := Renders.of_perform task settings performed
  have ends : ∀ files : Files, files.settings request.config = .ok config →
      Catalog.inFiles files arguments.catalog = .ok catalog →
      request.ending files = arguments.ending config catalog files := by
    intro files settings found
    rw [Request.ending_of_loaded settings (by rw [task]; exact found), task]
    rfl
  have succeeded : (arguments.ending config catalog start.files).status = 0 := by
    obtain ⟨_, ran, _⟩ := perform_leaves request start
    rw [performed, ends _ settings renders.catalog] at ran
    exact (congrArg Prod.fst ran).symm
  obtain ⟨printed, later, outcome, done⟩ := RenderArguments.exists_printed_of_status succeeded
  obtain ⟨_, ran, output, files⟩ :=
    perform_of_ending_eq_done ((ends _ settings renders.catalog).trans (done _ _ outcome))
  rw [performed, Prod.mk.injEq] at ran
  obtain ⟨_, rfl⟩ := ran
  refine ⟨printed, output, fun next sameFiles => ?_⟩
  rw [files] at sameFiles ⊢
  -- The first run has changed neither of the two files that the second one reads.
  have changes := changes_of_pagesOutcome outcome
  rw [RenderArguments.map_fst_pages] at changes
  have settingsAgain := settings_of_changes changes present
    (fun ⟨target, isTarget, there⟩ => (elsewhere target isTarget).2 there) settings
  have catalogAgain := catalog_of_changes changes
    (fun ⟨target, isTarget, there⟩ => (elsewhere target isTarget).1 there) renders.catalog
  obtain ⟨latest, outcomeAgain, sameAs⟩ := pagesOutcome_again outcome
    (settled_of_pagesOutcome outcome) ⟨rfl, fun _ => .inl rfl⟩
  obtain ⟨again, ranAgain, outputAgain, filesAgain⟩ :=
    @perform_of_ending_eq_done request next latest printed (by
      rw [sameFiles]
      exact (ends later settingsAgain catalogAgain).trans (done later latest outcomeAgain))
  exact ⟨again, ranAgain, outputAgain, filesAgain ▸ sameAs⟩

/-- A site for a version that is named twice, so that one page is written over the other,
is written twice in a row. -/
theorem rendering_repeatable_padded_versions :
    ∃ final again,
      (perform smallRequest : Simulation Nat).run (smallStart "versions = [\"v1\", \" v1 \"]\n") =
          (0, final)
        ∧ (perform smallRequest : Simulation Nat).run final = (0, again)
        ∧ again.files.SameAs final.files := by
  have parsed : Config.ofToml "versions = [\"v1\", \" v1 \"]\n" =
      .ok { versions := ["v1", " v1 "] } := by
    cbv
  have usable : ∀ version ∈ ["v1", " v1 "], Usable version := by decide
  have fits : Fits "site" (["v1", " v1 "].map Text.trim) := by decide
  have notPage : pageName ∉ ["v1", " v1 "].map Text.trim := by decide
  obtain ⟨final, performed⟩ := (exists_perform_small_iff parsed (by simp) usable fits).mpr notPage
  have elsewhere : ∀ target ∈ smallArguments.targets { versions := ["v1", " v1 "] },
      (smallFiles "").place target ≠ (smallFiles "").place "r.json"
        ∧ (smallFiles "").place target ≠ (smallFiles "").place "/work/reports.toml" := by
    decide
  have isName : Path.IsName Config.fileName := by decide
  have reaches : (smallFiles "versions = [\"v1\", \" v1 \"]\n").Reaches
      (Path.join "/work" Config.fileName) :=
    reaches_small _ (by decide) (by decide)
  have present := ((Files.reaches_join isName _ _).mp reaches).2
  obtain ⟨_, _, repeats⟩ :=
    rendering_repeatable rfl (renders_small parsed).settings (fun _ => present) performed elsewhere
  obtain ⟨again, performedAgain, _, sameAs⟩ := repeats final rfl
  exact ⟨final, again, performed, performedAgain, sameAs⟩

end ReportIndex.Command
