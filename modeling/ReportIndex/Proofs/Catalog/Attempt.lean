import ReportIndex.Proofs.Catalog.Load

/-!
Contract: catalogs that are replaced again and again.

Owns:
- the ways to a new catalog, of which one that fails leaves the old one;
- the reports that are left after any number of them: the last ones that were listed
  without a blank target.

Does not own: what is made of the reports.
-/

namespace ReportIndex.Catalog

/-- A way to a new catalog. -/
inductive Attempt where
  | default
  | list (reports : List Report)
  | document (text : String)
  | file (path : String) (surroundings : Surroundings)

/-- The catalog that an attempt comes to, if it does not fail. -/
def Attempt.catalog? : Attempt → Option Catalog
  | .default => some empty
  | .list reports => (ofReports reports).toOption
  | .document text => (ofJson text).toOption
  | .file path surroundings => ((load path : Simulation _).run surroundings).1.toOption

/-- The catalog after an attempt to replace it. -/
def replace (catalog : Catalog) (attempt : Attempt) : Catalog :=
  attempt.catalog?.getD catalog

/-- The catalog after attempts in a row. -/
def afterAll (attempts : List Attempt) : Catalog :=
  attempts.foldl replace empty

/-! ## What is listed -/

/-- The reports of a text, whatever their targets. -/
def listedIn (text : String) : Option (List Report) :=
  (Json.parse text).toOption.bind fun document => (reportsOf document).toOption

/-- The reports that an attempt lists, whatever their targets. -/
def Attempt.listed? : Attempt → Option (List Report)
  | .default => some []
  | .list reports => some reports
  | .document text => listedIn text
  | .file path surroundings =>
      match surroundings.files.readText path with
      | .ok text => listedIn text
      | .error _ => none

def hasNoBlank (reports : List Report) : Bool :=
  reports.all fun report => !report.hasBlankHref

/-- The listed reports, unless one of them has a blank target. -/
def Attempt.accepted? (attempt : Attempt) : Option (List Report) :=
  attempt.listed?.filter hasNoBlank

/-! ## One attempt -/

/-- A list of reports is taken as it is, or not at all. -/
theorem reports_of_ofReports (listed : List Report) :
    (ofReports listed).toOption.map reports = (some listed).filter hasNoBlank := by
  cases made : ofReports listed with
  | ok catalog =>
      have same := (ofReports_eq_ok_iff listed catalog).mp made
      subst same
      have noBlank : hasNoBlank catalog.reports = true := by
        simpa [hasNoBlank] using catalog.href_not_blank
      rw [Option.filter_some, if_pos noBlank]
      rfl
  | error error =>
      obtain ⟨earlier, report, later, rfl, _, blank, _⟩ := (ofReports_eq_error_iff _ _).mp made
      have notAll : hasNoBlank (earlier ++ report :: later) = false := by
        simp [hasNoBlank, blank]
      rw [Option.filter_some, if_neg (by simp [notAll])]
      rfl

theorem reports_of_ofJson (text : String) :
    (ofJson text).toOption.map reports = (listedIn text).filter hasNoBlank := by
  rw [ofJson, listedIn]
  cases Json.parse text with
  | error error => rfl
  | ok document =>
      change (ofValue document).toOption.map reports =
        (reportsOf document).toOption.filter hasNoBlank
      rw [ofValue]
      cases reportsOf document with
      | error fault => rfl
      | ok listed =>
          refine Eq.trans ?_ (reports_of_ofReports listed)
          dsimp only
          cases ofReports listed <;> rfl

/-- **Every way to a catalog checks the targets**, and does nothing else to the
reports that it lists. -/
theorem Attempt.reports_of_catalog? (attempt : Attempt) :
    attempt.catalog?.map reports = attempt.accepted? := by
  cases attempt with
  | default => rfl
  | list listed => exact reports_of_ofReports listed
  | document text => exact reports_of_ofJson text
  | file path surroundings =>
      obtain ⟨after, loaded, _⟩ := run_catalogLoad path surroundings
      rw [Attempt.catalog?, loaded, Attempt.accepted?, Attempt.listed?, inFiles]
      cases surroundings.files.readText path with
      | error error => rfl
      | ok text =>
          dsimp only
          rw [ofFileText_eq, ← reports_of_ofJson]
          cases ofJson text <;> rfl

theorem reports_replace (catalog : Catalog) (attempt : Attempt) :
    (catalog.replace attempt).reports = attempt.accepted?.getD catalog.reports := by
  rw [replace, ← attempt.reports_of_catalog?]
  cases attempt.catalog? <;> rfl

/-! ## Attempts in a row -/

theorem reports_foldl_replace (catalog : Catalog) (attempts : List Attempt) :
    (attempts.foldl replace catalog).reports =
      (attempts.filterMap Attempt.accepted?).getLast?.getD catalog.reports := by
  induction attempts generalizing catalog with
  | nil => rfl
  | cons attempt attempts inductionHypothesis =>
      rw [List.foldl_cons, inductionHypothesis, reports_replace, List.filterMap_cons]
      cases attempt.accepted? with
      | none => rfl
      | some reports => simp [List.getLast?_cons]

/-- What is left is the last list without a blank target. -/
theorem reports_afterAll (attempts : List Attempt) :
    (afterAll attempts).reports = (attempts.filterMap Attempt.accepted?).getLast?.getD [] :=
  reports_foldl_replace empty attempts

/-- However often a catalog is replaced, none of its targets is blank. -/
theorem hasNoBlank_afterAll (attempts : List Attempt) :
    hasNoBlank (afterAll attempts).reports = true := by
  rw [reports_afterAll]
  cases last : (attempts.filterMap Attempt.accepted?).getLast? with
  | none => rfl
  | some reports =>
      obtain ⟨attempt, _, accepted⟩ := List.mem_filterMap.mp (List.mem_of_getLast? last)
      exact (Option.filter_eq_some_iff.mp accepted).2

end ReportIndex.Catalog
