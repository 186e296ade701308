import ReportIndex.Command.Render
import ReportIndex.Proofs.Command.Outcome
import ReportIndex.Proofs.Workspace.Path

/-!
Contract: running the task that writes a site.

Owns:
- the pages of a site with their paths, in the order in which they are written;
- which versions can be names of directories;
- the agreement of the task with writing these pages.

Does not own: when the writing succeeds.
-/

namespace ReportIndex.Command

/-! ## Names -/

theorem isName_pageName : Path.IsName pageName := by
  decide

/-- No page's path stands for the standard output. -/
theorem isStandardOutput_page (directory : String) :
    Path.isStandardOutput (Path.join directory pageName) = false := by
  rw [← Bool.not_eq_true]
  intro standard
  have member : pageName ∈ Path.parts (Path.join directory pageName) := by
    rw [Path.parts_join isName_pageName]
    exact List.mem_append_right _ (List.mem_singleton_self pageName)
  rcases Path.eq_dash_or_dot_of_isStandardOutput standard member with dash | dot
  · exact absurd dash (by decide)
  · exact absurd dot (by decide)

/-- A version whose trimmed form can be the name of a directory on any system. -/
def Usable (version : String) : Prop :=
  Path.IsName (Text.trim version) ∧ '\\' ∉ (Text.trim version).toList

instance (version : String) : Decidable (Usable version) := by
  unfold Usable
  infer_instance

theorem isName_of_usable
    {versions : List String}
    (usable : ∀ version ∈ versions, Usable version) :
    ∀ name ∈ versions.map Text.trim, Path.IsName name := by
  intro name member
  obtain ⟨version, configured, rfl⟩ := List.mem_map.mp member
  exact (usable version configured).1

theorem versionDirectory_eq_ok (version name : String) :
    versionDirectory version = .ok name ↔ Usable version ∧ name = Text.trim version := by
  rw [versionDirectory, Usable]
  split
  next refused =>
    simp only [Bool.or_eq_true, beq_iff_eq, String.isEmpty_iff, List.contains_iff_mem] at refused
    simp only [reduceCtorEq, false_iff, not_and]
    rintro ⟨isName, noBackslash⟩
    rcases refused with (((empty | here) | above) | slash) | backslash
    · exact absurd empty isName.nonempty
    · exact absurd here isName.notHere
    · exact absurd above isName.notAbove
    · exact absurd slash isName.noSlash
    · exact absurd backslash noBackslash
  next accepted =>
    simp only [Bool.or_eq_true, beq_iff_eq, String.isEmpty_iff, List.contains_iff_mem, not_or]
      at accepted
    obtain ⟨⟨⟨⟨nonempty, notHere⟩, notAbove⟩, noSlash⟩, noBackslash⟩ := accepted
    simp only [Except.ok.injEq]
    exact ⟨fun same => ⟨⟨⟨nonempty, noSlash, notHere, notAbove⟩, noBackslash⟩, same.symm⟩,
      fun ⟨_, same⟩ => same.symm⟩

theorem mapM_versionDirectory_eq_ok (versions names : List String) :
    versions.mapM versionDirectory = .ok names ↔
      (∀ version ∈ versions, Usable version) ∧ names = versions.map Text.trim := by
  induction versions generalizing names with
  | nil => simp [pure, Except.pure, eq_comm]
  | cons version versions inductionHypothesis =>
      rw [List.mapM_cons, List.forall_mem_cons, List.map_cons]
      have first := versionDirectory_eq_ok version
      cases outcome : versionDirectory version with
      | error error =>
          simp only [outcome, reduceCtorEq, false_iff, not_and] at first
          have unusable : ¬Usable version := fun usable => first _ usable rfl
          simp [unusable, bind, Except.bind]
      | ok name =>
          obtain ⟨usable, rfl⟩ := (first name).mp outcome
          cases rest : versions.mapM versionDirectory with
          | error error =>
              simp only [rest, reduceCtorEq, false_iff, not_and] at inductionHypothesis
              have unusable : ¬∀ version ∈ versions, Usable version :=
                fun usable => inductionHypothesis _ usable rfl
              simp [unusable, bind, Except.bind]
          | ok others =>
              obtain ⟨allUsable, rfl⟩ := (inductionHypothesis others).mp rest
              simp only [bind, Except.bind, pure, Except.pure, Except.ok.injEq]
              exact ⟨fun same => ⟨⟨usable, allUsable⟩, same.symm⟩, fun ⟨_, same⟩ => same.symm⟩

/-! ## Pages -/

/-- The pages of versions, which are given as directory names. -/
def versionPages
    (directory : String)
    (html : String → String)
    (names : List String) :
    List (String × String) :=
  names.map fun name => (Path.join (Path.join directory name) pageName, html name)

/-- All pages of a site. -/
def sitePages
    (directory rootHtml : String)
    (html : String → String)
    (names : List String) :
    List (String × String) :=
  (Path.join directory pageName, rootHtml) :: versionPages directory html names

theorem versionPages_cons
    (directory : String)
    (html : String → String)
    (name : String)
    (names : List String) :
    versionPages directory html (name :: names) =
      (Path.join (Path.join directory name) pageName, html name)
        :: versionPages directory html names :=
  rfl

/-- The markup of a version's page. -/
def versionMarkup
    (fragment : Bool)
    (catalog : Catalog)
    (context : Context)
    (version : String) :
    String :=
  markup fragment catalog (context.withVersion version)

section

variable (fragment : Bool) (catalog : Catalog) (context : Context)

theorem run_renderMarkup (surroundings : Surroundings) :
    ∃ after,
      (renderMarkup fragment catalog context : Simulation String).run surroundings =
          (markup fragment catalog context, after)
        ∧ surroundings.Becomes surroundings.files "" after :=
  ⟨_, rfl, .silent _ _ _⟩

theorem run_writeVersions
    (directory : String)
    (names : List String)
    (surroundings : Surroundings) :
    ∃ after,
      (writeVersions fragment catalog context directory names :
          TaskM Simulation Unit).run.run surroundings =
          ((pagesOutcome surroundings.files
            (versionPages directory (versionMarkup fragment catalog context) names)).1, after)
        ∧ surroundings.Becomes
            (pagesOutcome surroundings.files
              (versionPages directory (versionMarkup fragment catalog context) names)).2 ""
            after := by
  induction names generalizing surroundings with
  | nil => exact ⟨_, rfl, .silent _ _ _⟩
  | cons name names inductionHypothesis =>
      rw [writeVersions, versionPages_cons, pagesOutcome_cons]
      obtain ⟨rendered, ran, becomes⟩ :=
        run_renderMarkup fragment catalog (context.withVersion name) surroundings
      obtain ⟨written, wrote, becomesWritten⟩ :=
        run_writeOutput (isStandardOutput_page (Path.join directory name))
          (versionMarkup fragment catalog context name) rendered
      rw [← versionMarkup] at ran
      rw [becomes.files] at wrote becomesWritten
      have becomes := becomes.trans_silent becomesWritten
      rw [run_bind_ok (run_lift ran)]
      generalize pageOutcome surroundings.files _ _ = outcome at wrote becomes
      rcases outcome with ⟨error | ⟨⟨⟩⟩, files⟩
      · rw [run_bind_error wrote]
        exact ⟨_, rfl, becomes⟩
      · rw [run_bind_ok wrote]
        obtain ⟨after, rest, becomesRest⟩ := inductionHypothesis written
        rw [becomes.files] at rest becomesRest
        exact ⟨_, rest, becomes.trans_silent becomesRest⟩

theorem run_writeSite
    {directory : String}
    {versions names : List String}
    (notStandard : Path.isStandardOutput directory = false)
    (accepted : versions.mapM versionDirectory = .ok names)
    (surroundings : Surroundings) :
    ∃ after,
      (writeSite fragment catalog context directory versions :
          TaskM Simulation Unit).run.run surroundings =
          ((pagesOutcome surroundings.files
            (sitePages directory (markup fragment catalog context)
              (versionMarkup fragment catalog context) names)).1, after)
        ∧ surroundings.Becomes
            (pagesOutcome surroundings.files
              (sitePages directory (markup fragment catalog context)
                (versionMarkup fragment catalog context) names)).2 "" after := by
  rw [writeSite, if_neg (by simp [notStandard]), accepted, sitePages, pagesOutcome_cons]
  obtain ⟨rendered, ran, becomes⟩ := run_renderMarkup fragment catalog context surroundings
  obtain ⟨written, wrote, becomesWritten⟩ :=
    run_writeOutput (isStandardOutput_page directory) (markup fragment catalog context) rendered
  rw [becomes.files] at wrote becomesWritten
  have becomes := becomes.trans_silent becomesWritten
  have named : (writeSite.liftExcept (.ok names) : TaskM Simulation _).run.run surroundings =
      (.ok names, surroundings) := rfl
  rw [run_bind_ok named, run_bind_ok (run_lift ran)]
  generalize pageOutcome surroundings.files _ _ = outcome at wrote becomes
  rcases outcome with ⟨error | ⟨⟨⟩⟩, files⟩
  · rw [run_bind_error wrote]
    exact ⟨_, rfl, becomes⟩
  · rw [run_bind_ok wrote]
    obtain ⟨after, rest, becomesRest⟩ :=
      run_writeVersions fragment catalog context directory names written
    rw [becomes.files] at rest becomesRest
    have becomes := becomes.trans_silent becomesRest
    dsimp only
    generalize pagesOutcome files _ = outcome at rest becomes
    rcases outcome with ⟨error | ⟨⟨⟩⟩, files⟩
    · rw [run_bind_error rest]
      exact ⟨_, rfl, becomes⟩
    · rw [run_bind_ok rest]
      exact ⟨_, rfl, becomes.files, becomes.output, becomes.complaints⟩

/-- A site that is written has a directory, and versions that can be names of
directories. -/
theorem usable_of_run_writeSite
    {directory : String}
    {versions : List String}
    {start final : Surroundings}
    (ran : (writeSite fragment catalog context directory versions :
      TaskM Simulation Unit).run.run start = (.ok (), final)) :
    Path.isStandardOutput directory = false ∧ ∀ version ∈ versions, Usable version := by
  rw [writeSite] at ran
  split at ran
  next standard => cases ran
  next notStandard =>
    refine ⟨by simpa using notStandard, ?_⟩
    cases accepted : versions.mapM versionDirectory with
    | error error =>
        have refused : (writeSite.liftExcept (.error error) :
            TaskM Simulation (List String)).run.run start = (.error error, start) := rfl
        rw [accepted, run_bind_error refused] at ran
        cases ran
    | ok names => exact ((mapM_versionDirectory_eq_ok versions names).mp accepted).1

end

end ReportIndex.Command
