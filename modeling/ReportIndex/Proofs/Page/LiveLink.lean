import Mathlib
import ReportIndex.Proofs.Catalog.Attempt
import ReportIndex.Proofs.Link.NotBlank
import ReportIndex.Proofs.Page.ShownPage

/-!
Contract: no link of a rendering is dead.

Owns:
- the projection of reports with every test that it could make: whether there is a
  report at a position, and whether its target is blank;
- these tests fail for exactly the reports that make no catalog;
- all links of grid and page have one target, which is not blank.

Does not own: how a catalog came about.
-/

namespace ReportIndex

/-! ## Projection with tests -/

/-- What a test finds wrong with a report that is projected. -/
inductive ProjectionFault where
  | outside (index : Nat)
  | blank (index : Nat)
deriving DecidableEq, Repr

/-- The target of the report at a position, if there is a report and it has one. -/
def testedLink (reports : List Report) (index : Nat) : Except ProjectionFault VersionedHref :=
  match reports[index]? with
  | none => .error (.outside index)
  | some report =>
      match VersionedHref.ofString? report.href with
      | none => .error (.blank index)
      | some link => .ok link

/-- The card of a report at a position, its target looked up and tested again. -/
def testedCard
    (context : Context)
    (reports : List Report)
    (numbered : Report × Nat) :
    Except ProjectionFault Card :=
  match testedLink reports numbered.2 with
  | .error fault => .error fault
  | .ok link => .ok (Card.project context numbered.2 numbered.1 link)

/-- The cards of reports, or the first test that fails. -/
def testedCards (context : Context) (reports : List Report) : Except ProjectionFault (List Card) :=
  reports.zipIdx.mapM (testedCard context reports)

section

variable {α β ε : Type} {function : α → Except ε β}

theorem mapM_eq_ok_of_forall₂
    {values : List α}
    {results : List β}
    (each : List.Forall₂ (fun value result => function value = .ok result) values results) :
    values.mapM function = .ok results := by
  induction each with
  | nil => rfl
  | cons first _ inductionHypothesis =>
      rw [List.mapM_cons, first, inductionHypothesis]
      rfl

theorem mapM_eq_error
    {earlier later : List α}
    {value : α}
    {error : ε}
    (each : ∀ other ∈ earlier, ∃ result, function other = .ok result)
    (failed : function value = .error error) :
    (earlier ++ value :: later).mapM function = .error error := by
  induction earlier with
  | nil =>
      rw [List.nil_append, List.mapM_cons, failed]
      rfl
  | cons first others inductionHypothesis =>
      rw [List.forall_mem_cons] at each
      obtain ⟨⟨result, passed⟩, rest⟩ := each
      rw [List.cons_append, List.mapM_cons, passed, inductionHypothesis rest]
      rfl

end

theorem testedCard_of_not_blank
    (context : Context)
    {reports : List Report}
    {index : Nat}
    {report : Report}
    (found : reports[index]? = some report)
    (notBlank : report.hasBlankHref = false) :
    testedCard context reports (report, index) =
      .ok (Card.project context index report ⟨report.href, notBlank⟩) := by
  have link : VersionedHref.ofString? report.href = some ⟨report.href, notBlank⟩ :=
    dif_pos notBlank
  simp only [testedCard, testedLink, found, link]

theorem testedCard_of_blank
    (context : Context)
    {reports : List Report}
    {index : Nat}
    {report : Report}
    (found : reports[index]? = some report)
    (blank : report.hasBlankHref = true) :
    testedCard context reports (report, index) = .error (.blank index) := by
  have link : VersionedHref.ofString? report.href = none :=
    dif_neg (by simpa [Report.hasBlankHref] using blank)
  simp only [testedCard, testedLink, found, link]

/-- **The tests fail for exactly the reports that make no catalog**, and at the same
position; otherwise they change nothing. -/
theorem testedCards_eq (context : Context) (reports : List Report) :
    testedCards context reports =
      match Catalog.ofReports reports with
      | .ok catalog => .ok (context.cards catalog)
      | .error error => .error (.blank error.index) := by
  cases made : Catalog.ofReports reports with
  | ok catalog =>
      have same := (Catalog.ofReports_eq_ok_iff reports catalog).mp made
      subst same
      refine mapM_eq_ok_of_forall₂ (List.forall₂_iff_get.mpr ⟨by simp [Catalog.size], ?_⟩)
      intro index inside insideCards
      have insideReports : index < catalog.reports.length := by simpa using inside
      simp only [List.get_eq_getElem, List.getElem_zipIdx, Nat.zero_add,
        Context.getElem_cards context catalog index insideReports insideCards]
      exact testedCard_of_not_blank context (List.getElem?_eq_getElem insideReports) _
  | error error =>
      obtain ⟨earlier, report, later, rfl, notBlank, blank, rfl⟩ :=
        (Catalog.ofReports_eq_error_iff _ _).mp made
      rw [testedCards, List.zipIdx_append, List.zipIdx_cons, Nat.zero_add]
      refine mapM_eq_error ?_ (testedCard_of_blank context (by simp) blank)
      rintro ⟨other, index⟩ member
      have found : earlier[index]? = some other := List.mk_mem_zipIdx_iff_getElem?.mp member
      obtain ⟨inside, _⟩ := List.getElem?_eq_some_iff.mp found
      refine ⟨_, testedCard_of_not_blank context ?_ (notBlank other (List.mem_of_getElem? found))⟩
      rw [List.getElem?_append_left inside, found]

/-! ## Links of a rendering -/

namespace Page

open Markup

/-- Every link among events has one target, and it is not blank. -/
def LinksLive (found : List Event) : Prop :=
  ∀ link ∈ elements "a" found,
    ∃ target, valuesOf "href" link.1 = [target] ∧ Text.isBlankText target = false

section

variable {context : Context} (builtIn : context.links.isBuiltIn = true) (catalog : Catalog)

include builtIn

theorem linksLive_cards :
    ∀ link ∈ (context.cards catalog).map fun card =>
        (anchorAttributes card context.activeVersion context.links, insideCard card),
      ∃ target, valuesOf "href" link.1 = [target] ∧ Text.isBlankText target = false := by
  intro link member
  obtain ⟨card, isCard, rfl⟩ := List.mem_map.mp member
  refine ⟨card.href, ?_, Card.isBlankText_href builtIn isCard⟩
  rw [Context.href_of_mem_cards isCard]
  simp [anchorAttributes, writtenAttributes, valuesOf]

theorem linksLive_grid : LinksLive (events (grid catalog context)) := by
  rw [LinksLive, links_grid]
  exact linksLive_cards builtIn catalog

theorem linksLive_page : LinksLive (events (page catalog context)) := by
  rw [LinksLive, links_page]
  exact linksLive_cards builtIn catalog

end

/-- **No dead link can be rendered.** However often catalogs are replaced, the one that
is left holds the last reports that were listed without a blank target; projecting
them passes every test that is left out, and each link of grid and page has a target. -/
theorem no_dead_link
    (attempts : List Catalog.Attempt)
    (context : Context)
    (builtIn : context.links.isBuiltIn = true) :
    let catalog := Catalog.afterAll attempts
    catalog.reports = (attempts.filterMap Catalog.Attempt.accepted?).getLast?.getD []
      ∧ (∀ report ∈ catalog.reports, Text.isBlankText report.href = false)
      ∧ testedCards context catalog.reports = .ok (context.cards catalog)
      ∧ (∀ card ∈ context.cards catalog, Text.isBlankText card.href = false)
      ∧ LinksLive (events (grid catalog context))
      ∧ LinksLive (events (page catalog context)) := by
  intro catalog
  refine ⟨Catalog.reports_afterAll attempts, ?_, ?_, fun card member =>
    Card.isBlankText_href builtIn member, linksLive_grid builtIn catalog,
    linksLive_page builtIn catalog⟩
  · intro report member
    have none := List.all_eq_true.mp (Catalog.hasNoBlank_afterAll attempts) report member
    simpa [Report.hasBlankHref] using none
  · rw [testedCards_eq, (Catalog.ofReports_eq_ok_iff catalog.reports catalog).mpr rfl]

/-- A good list, a list and a text with a blank target, a text that is no document, and
a file that is missing: the first list stays. -/
theorem no_dead_link_after_failures :
    let attempts : List Catalog.Attempt :=
      [ .list [⟨"A", "?tab=1#top", ""⟩],
        .list [⟨"B", "b.html", ""⟩, ⟨"C", " \u00a0", ""⟩],
        .document "[[\"D\", \"\\t\"]]",
        .document "]",
        .file "missing.json" ⟨.startingAt ["work"], [], "", ""⟩ ]
    let context : Context := { version := some " v 1 ", links := .query "" }
    (Catalog.afterAll attempts).reports = [⟨"A", "?tab=1#top", ""⟩]
      ∧ LinksLive (events (page (Catalog.afterAll attempts) context)) := by
  intro attempts context
  obtain ⟨reports, _, _, _, _, live⟩ := no_dead_link attempts context rfl
  have malformed : (Json.parse "]").toOption = none := by cbv
  have parsed : (Json.parse "[[\"D\", \"\\t\"]]").toOption =
      some (.array [.array [.string "D", .string "\t"]]) := by
    cbv
  have accepted : attempts.filterMap Catalog.Attempt.accepted? = [[⟨"A", "?tab=1#top", ""⟩]] := by
    simp only [attempts, List.filterMap_cons, Catalog.Attempt.accepted?, Catalog.Attempt.listed?,
      Catalog.listedIn, malformed, parsed]
    rfl
  rw [accepted] at reports
  exact ⟨reports, live⟩

end Page

end ReportIndex
