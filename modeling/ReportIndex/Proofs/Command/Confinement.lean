import ReportIndex.Proofs.Command.Refusal
import ReportIndex.Proofs.Workspace.Unsteady

/-!
Contract: a site is written into its own directory and nowhere else.

Owns:
- the places that the pages and the directories of a site can have;
- what a run that writes a site changes, whatever its versions are and wherever it
  breaks off.

Does not own: what the pages hold, and when all of them are written.
-/

namespace ReportIndex.Command

open Unsteady (Confines steadily)

/-! ## Tasks on unsteady surroundings -/

section

variable {pages directories : String → Prop} {α β : Type}

theorem confines_task_bind
    {action : TaskM Unsteady.Run α}
    {next : α → TaskM Unsteady.Run β}
    (first : Confines pages directories action.run)
    (second : ∀ value, Confines pages directories (next value).run) :
    Confines pages directories (action >>= next).run := by
  rw [ExceptT.run_bind]
  refine first.bind fun outcome => ?_
  cases outcome with
  | ok value => exact second value
  | error error => exact .pure _

/-- An operation in a task changes what it changes alone. -/
theorem confines_lift
    {operation : Unsteady.Run α}
    (confines : Confines pages directories operation) :
    Confines pages directories (liftM operation : TaskM Unsteady.Run α).run :=
  confines.map Except.ok

theorem confines_return (value : α) :
    Confines pages directories (pure value : TaskM Unsteady.Run α).run :=
  .pure _

theorem confines_throw (error : TaskError) :
    Confines pages directories (throw error : TaskM Unsteady.Run α).run :=
  .pure _

end

/-! ## Loading -/

theorem readText_steadily (path : String) :
    (Workspace.readText path : Unsteady.Run _) = steadily (Workspace.readText path) := by
  rw [Workspace.readText, Workspace.readText, Unsteady.steadily_bind]
  refine congrArg _ (funext fun outcome => ?_)
  cases outcome with
  | error error => rfl
  | ok bytes =>
      dsimp only
      cases String.fromUTF8? bytes <;> rfl

theorem configLoad_steadily (path : String) :
    (Config.load path : Unsteady.Run Config) = steadily (Config.load path) := by
  rw [Config.load, Config.load, Unsteady.steadily_bind]
  refine congrArg _ (funext fun there => ?_)
  cases there with
  | false => rfl
  | true =>
      simp only [Bool.not_true, Bool.false_eq_true, if_false, readText_steadily,
        Unsteady.steadily_bind]
      refine congrArg _ (funext fun outcome => ?_)
      cases outcome with
      | error error => rfl
      | ok document =>
          dsimp only
          cases Config.ofToml document <;> rfl

/-- Nothing can happen to the loading of settings. -/
theorem loadConfig_steadily (path? : Option String) :
    (loadConfig path? : TaskM Unsteady.Run Config).run =
      steadily (loadConfig path? : TaskM Simulation Config).run := by
  cases path? with
  | none =>
      simp only [loadConfig, ExceptT.run_bind, Unsteady.steadily_bind]
      refine congrArg _ (funext fun directory => ?_)
      cases directory with
      | error error => rfl
      | ok directory => exact congrArg (ExceptT.run ∘ liftM) (configLoad_steadily _)
  | some path =>
      simp only [loadConfig, ExceptT.run_bind, Unsteady.steadily_bind]
      refine congrArg _ (funext fun there => ?_)
      rcases there with error | (_ | _)
      · rfl
      · rfl
      · exact congrArg (ExceptT.run ∘ liftM) (configLoad_steadily path)

/-- Reading files changes none. -/
theorem confines_loadCatalog
    {pages directories : String → Prop}
    (path : String) :
    Confines pages directories (loadCatalog path : TaskM Unsteady.Run Catalog).run := by
  refine confines_task_bind (confines_lift ?_) fun outcome => ?_
  · rw [Catalog.load, readText_steadily]
    refine Confines.bind (.steadily fun surroundings => ?_) fun outcome => ?_
    · rw [run_readText]
    · rcases outcome with error | text
      · exact .pure _
      · dsimp only
        split
        · exact .pure _
        · exact (Confines.record _).bind fun _ => .pure _
  · cases outcome with
    | ok catalog => exact confines_return catalog
    | error error => exact confines_throw _

theorem confines_announceContext
    {pages directories : String → Prop}
    (config : Config) :
    Confines pages directories (Config.announceContext config : Unsteady.Run Context) := by
  rw [Config.announceContext, Config.announceLinkStrategy]
  split
  · exact ((Confines.record _).bind fun _ => .pure _).bind fun _ => .pure _
  · exact Confines.bind (.pure _) fun _ => .pure _

/-! ## Writing -/

theorem confines_renderMarkup
    {pages directories : String → Prop}
    (fragment : Bool)
    (catalog : Catalog)
    (context : Context) :
    Confines pages directories
      (liftM (renderMarkup fragment catalog context : Unsteady.Run String) :
        TaskM Unsteady.Run String).run :=
  confines_lift ((Confines.record _).bind fun _ => .pure _)

section

variable {pages directories : String → Prop} {path : String}

theorem confines_ensureParent
    (allowed :
      ∀ parent ancestor, Path.parent? path = some parent → Path.IsAncestor ancestor parent →
        directories ancestor) :
    Confines pages directories (ensureParent path : TaskM Unsteady.Run Unit).run := by
  rw [ensureParent]
  split
  · exact confines_return ()
  · exact confines_return ()
  next directory _ found =>
    refine confines_task_bind
      (confines_lift (.ensureDirectoriesUpTo _ fun ancestor => allowed directory ancestor found))
      fun outcome => ?_
    cases outcome with
    | ok made => exact confines_return ()
    | error error => exact confines_throw _

/-- Writing a page changes the file at its path, and creates directories above it. -/
theorem confines_writeOutput
    (page : pages path)
    (allowed :
      ∀ parent ancestor, Path.parent? path = some parent → Path.IsAncestor ancestor parent →
        directories ancestor)
    (html : String) :
    Confines pages directories (writeOutput path html : TaskM Unsteady.Run Unit).run := by
  rw [writeOutput]
  split
  · exact confines_lift (.print _)
  · refine confines_task_bind (confines_ensureParent allowed) fun _ => ?_
    refine confines_task_bind (confines_lift (.writeBytes page _)) fun outcome => ?_
    cases outcome with
    | error error => exact confines_throw _
    | ok written =>
        exact confines_task_bind (confines_lift (.record _)) fun _ => confines_lift (.record _)

end

/-! ## The paths of a site -/

section

variable (directory : String) (versions : List String)

/-- The paths of a site's pages. -/
inductive SitePage : String → Prop where
  | root : SitePage (Path.join directory pageName)
  | version
      {version : String}
      (configured : version ∈ versions)
      (usable : Usable version) :
      SitePage (Path.join (Path.join directory (Text.trim version)) pageName)

/-- The paths of a site's directories: its own with those above it, and one for each
version. -/
inductive SiteDirectory : String → Prop where
  | above
      {ancestor : String}
      (isAncestor : Path.IsAncestor ancestor directory) :
      SiteDirectory ancestor
  | version
      {version : String}
      (configured : version ∈ versions)
      (usable : Usable version) :
      SiteDirectory (Path.join directory (Text.trim version))

end

section

variable {directory : String} {versions : List String}

/-- As the program spells these paths: taking the parent of a page's path also takes
the slashes and dots off the end of the directory's. -/
def SpelledDirectory (directory : String) (versions : List String) (path : String) : Prop :=
  path = Path.cleaned directory ∨ SiteDirectory directory versions path

theorem confines_writeVersions
    (fragment : Bool)
    (catalog : Catalog)
    (context : Context)
    {names : List String}
    (known : ∀ name ∈ names, ∃ version ∈ versions, Usable version ∧ name = Text.trim version) :
    Confines (SitePage directory versions) (SpelledDirectory directory versions)
      (writeVersions fragment catalog context directory names : TaskM Unsteady.Run Unit).run := by
  induction names with
  | nil => exact confines_return ()
  | cons name names inductionHypothesis =>
      rw [List.forall_mem_cons] at known
      obtain ⟨⟨version, configured, usable, rfl⟩, others⟩ := known
      refine confines_task_bind (confines_renderMarkup fragment catalog _) fun html => ?_
      refine confines_task_bind (confines_writeOutput (.version configured usable) ?_ html)
        fun _ => inductionHypothesis others
      intro parent ancestor found isAncestor
      rw [parent?_page usable.1, Option.some.injEq] at found
      subst found
      rcases isAncestor.of_join usable.1 with rfl | rfl | above
      · exact .inr (.version configured usable)
      · exact .inl rfl
      · exact .inr (.above above)

/-- A task goes on only with a result that is not an error. -/
theorem confines_liftExcept_bind
    {pages directories : String → Prop}
    {α β : Type}
    (result : Except TaskError α)
    {next : α → TaskM Unsteady.Run β}
    (second : ∀ value, result = .ok value → Confines pages directories (next value).run) :
    Confines pages directories (writeSite.liftExcept result >>= next).run := by
  cases result with
  | ok value => exact second value rfl
  | error error => exact Confines.pure (Except.error error)

/-- Whatever happens, a site's pages and directories are all that is written. -/
theorem confines_writeSite
    (fragment : Bool)
    (catalog : Catalog)
    (context : Context) :
    Confines (SitePage directory versions) (SpelledDirectory directory versions)
      (writeSite fragment catalog context directory versions : TaskM Unsteady.Run Unit).run := by
  rw [writeSite]
  split
  · exact confines_throw _
  refine confines_liftExcept_bind _ fun names accepted => ?_
  obtain ⟨usable, rfl⟩ := (mapM_versionDirectory_eq_ok versions names).mp accepted
  refine confines_task_bind (confines_renderMarkup fragment catalog context) fun html => ?_
  refine confines_task_bind (confines_writeOutput .root ?_ html) fun _ => ?_
  · intro parent ancestor found isAncestor
    rw [Path.parent?_join isName_pageName, Option.some.injEq] at found
    subst found
    exact isAncestor.of_cleaned.imp_right .above
  refine confines_task_bind (confines_writeVersions fragment catalog context ?_)
    fun _ => confines_lift (.record _)
  intro name member
  obtain ⟨version, configured, rfl⟩ := List.mem_map.mp member
  exact ⟨version, configured, usable version configured, rfl⟩

theorem confines_render
    {arguments : RenderArguments}
    {config : Config}
    (unversioned : arguments.documentVersion = none)
    (several : config.versions ≠ []) :
    Confines
      (SitePage (arguments.out.getD siteName) config.versions)
      (SpelledDirectory (arguments.out.getD siteName) config.versions)
      (render arguments config : TaskM Unsteady.Run Nat).run := by
  have versions : (arguments.override config).versions = config.versions := rfl
  rw [render, unversioned]
  refine confines_task_bind (confines_loadCatalog _) fun catalog => ?_
  refine confines_task_bind (confines_lift (confines_announceContext _)) fun context => ?_
  dsimp only
  rw [versions, if_neg (by simpa using several)]
  exact confines_task_bind (confines_writeSite _ catalog context) fun _ => confines_return 0

/-! ## From start to end -/

/-- What happens to a file system that a site is written into. -/
structure Confined
    (directory : String)
    (versions : List String)
    (earlier later : Files) :
    Prop where
  /-- Only pages are written, and only their directories created. -/
  changes :
    Files.ChangesAt (SitePage directory versions) (SiteDirectory directory versions) earlier later
  /-- A file that has changed is a page in the site's directory, or one level below. -/
  files :
    ∀ location content,
      later.entry? location = some (.file content) →
      earlier.entry? location ≠ some (.file content) →
      location = earlier.place directory ++ [pageName]
        ∨ ∃ version ∈ versions, Usable version
            ∧ location = earlier.place directory ++ [Text.trim version, pageName]
  /-- A new directory is on the way to the site's, which does not leave it if its path
  does not go up, or directly in it. -/
  directories :
    ".." ∉ Path.parts directory →
    ∀ location,
      later.entry? location = some .directory →
      earlier.entry? location ≠ some .directory →
      location <+: earlier.place directory
        ∨ ∃ version ∈ versions, Usable version
            ∧ location = earlier.place directory ++ [Text.trim version]

theorem named_of_spelled
    {files : Files}
    {location : Location}
    (named : files.Named (SpelledDirectory directory versions) location) :
    files.Named (SiteDirectory directory versions) location := by
  obtain ⟨path, rfl | isDirectory, there⟩ := named
  · exact ⟨directory, .above (.self directory), by rw [← there, Files.place_cleaned]⟩
  · exact ⟨path, isDirectory, there⟩

theorem place_of_sitePage
    {files : Files}
    {location : Location}
    (named : files.Named (SitePage directory versions) location) :
    location = files.place directory ++ [pageName]
      ∨ ∃ version ∈ versions, Usable version
          ∧ location = files.place directory ++ [Text.trim version, pageName] := by
  obtain ⟨_, _ | ⟨configured, usable⟩, rfl⟩ := named
  · exact .inl (Files.place_join isName_pageName files directory)
  · exact .inr ⟨_, configured, usable, place_page usable.1 files directory⟩

theorem place_of_siteDirectory
    {files : Files}
    {location : Location}
    (notAbove : ".." ∉ Path.parts directory)
    (named : files.Named (SiteDirectory directory versions) location) :
    location <+: files.place directory
      ∨ ∃ version ∈ versions, Usable version
          ∧ location = files.place directory ++ [Text.trim version] := by
  obtain ⟨_, isAncestor | ⟨configured, usable⟩, rfl⟩ := named
  · exact .inl (Files.prefix_of_isAncestor isAncestor notAbove files)
  · exact .inr ⟨_, configured, usable, place_directory usable.1 files directory⟩

theorem confined_of_changesAt
    {earlier later : Files}
    (changes :
      earlier.ChangesAt (SitePage directory versions) (SpelledDirectory directory versions)
        later) :
    Confined directory versions earlier later := by
  have entries := fun location =>
    (changes.entries location).imp_right (Or.imp_right (And.imp_left named_of_spelled))
  refine ⟨⟨changes.workingDirectory, entries⟩, ?_, ?_⟩
  · intro location content isFile different
    rcases entries location with same | ⟨isPage, _⟩ | ⟨_, _, isDirectory⟩
    · exact absurd (same ▸ isFile) different
    · exact place_of_sitePage isPage
    · rw [isFile] at isDirectory
      cases isDirectory
  · intro notAbove location isDirectory different
    rcases entries location with same | ⟨_, _, content, isFile⟩ | ⟨named, _⟩
    · exact absurd (same ▸ isDirectory) different
    · rw [isDirectory] at isFile
      cases isFile
    · exact place_of_siteDirectory notAbove named

theorem changesAt_of_run
    {request : Request}
    {arguments : RenderArguments}
    {config : Config}
    {start : Unsteady}
    (task : request.task = .render arguments)
    (unversioned : arguments.documentVersion = none)
    (settings : start.files.settings request.config = .ok config)
    (several : config.versions ≠ []) :
    start.files.ChangesAt
      (SitePage (arguments.out.getD siteName) config.versions)
      (SpelledDirectory (arguments.out.getD siteName) config.versions)
      ((run request : TaskM Unsteady.Run Nat).run.run start).2.files := by
  obtain ⟨configured, loaded, becomes⟩ := run_loadConfig request.config start.surroundings
  have settings : start.surroundings.files.settings request.config = .ok config := settings
  rw [settings] at loaded
  rw [run, ExceptT.run_bind, loadConfig_steadily, Unsteady.run_steadily_bind loaded, task]
  have changes := confines_render unversioned several
    { start with surroundings := configured }
  rwa [Unsteady.files, becomes.files] at changes

/-- **A site stays in its directory**, whatever its versions are called, and however
the run ends: pages are written into the directory and the directories of usable
versions directly below it, and nothing else is changed. -/
theorem site_confined
    {request : Request}
    {arguments : RenderArguments}
    {config : Config}
    {start : Unsteady}
    (task : request.task = .render arguments)
    (unversioned : arguments.documentVersion = none)
    (settings : start.files.settings request.config = .ok config)
    (several : config.versions ≠ []) :
    Confined (arguments.out.getD siteName) config.versions start.files
      ((perform request : Unsteady.Run Nat).run start).2.files := by
  refine confined_of_changesAt ?_
  have changes := @changesAt_of_run request arguments config
    { start with surroundings := started start.surroundings } task unversioned settings several
  have recorded : (Workspace.record startEvent : Simulation Unit).run start.surroundings =
    ((), started start.surroundings) := rfl
  have starts : (Workspace.record startEvent : Unsteady.Run Unit) =
    steadily (Workspace.record startEvent) := rfl
  rw [perform, starts, Unsteady.run_steadily_bind recorded]
  refine Confines.after changes fun outcome => ?_
  cases outcome with
  | ok status => exact .pure status
  | error error => exact (Confines.complain _).bind fun _ => .pure 1

end

/-- Surroundings with two versions, in which the disk is full when the second page is
written. -/
def crowded : Unsteady :=
  { surroundings := smallStart "versions = [\"v1\", \" v2 \"]\n"
    mishaps :=
      [none, none, none,
        some { error := .other "No space left on device" 28, left := some "<!".toUTF8 }] }

/-- Of the small workspace, too, only pages of the site change when the disk is full. -/
theorem site_confined_disk_full :
    Confined "site" ["v1", " v2 "] crowded.files
        ((perform smallRequest : Unsteady.Run Nat).run crowded).2.files
      ∧ ∀ location content,
        ((perform smallRequest : Unsteady.Run Nat).run crowded).2.files.entry? location =
          some (.file content) →
        crowded.files.entry? location ≠ some (.file content) →
        location ∈
          [["work", "site", "index.html"], ["work", "site", "v1", "index.html"],
            ["work", "site", "v2", "index.html"]] := by
  have parsed : Config.ofToml "versions = [\"v1\", \" v2 \"]\n" =
      .ok { versions := ["v1", " v2 "] } := by
    cbv
  have task : smallRequest.task = .render smallArguments := rfl
  have settings : crowded.files.settings smallRequest.config =
      .ok { versions := ["v1", " v2 "] } :=
    (renders_small parsed).settings
  have confined : Confined "site" ["v1", " v2 "] crowded.files
      ((perform smallRequest : Unsteady.Run Nat).run crowded).2.files :=
    site_confined task rfl settings (by simp)
  refine ⟨confined, fun location content isFile different => ?_⟩
  have site : crowded.files.place "site" = ["work", "site"] := place_small _
  rcases confined.files location content isFile different with rfl | ⟨version, member, _, rfl⟩
  · simp [site, pageName]
  · have trimmed : Text.trim version ∈ ["v1", " v2 "].map Text.trim := List.mem_map_of_mem member
    have names : ["v1", " v2 "].map Text.trim = ["v1", "v2"] := by decide
    rw [names] at trimmed
    simp only [List.mem_cons, List.not_mem_nil, or_false] at trimmed
    rcases trimmed with name | name <;> simp [site, name, pageName]

end ReportIndex.Command
