import Mathlib.Data.List.Forall2
import ReportIndex.Card
import ReportIndex.Proofs.Link.ActiveVersion

/-!
Contract: which report a card belongs to.

Owns:
- the card at a position as the projection of the report at that position;
- the values of a card that are those of its report.

Does not own: how a card is shown.
-/

namespace ReportIndex

/-- The card at a position is that of the report there. -/
theorem Context.getElem_cards
    (context : Context)
    (catalog : Catalog)
    (index : Nat)
    (inside : index < catalog.reports.length)
    (insideCards : index < (context.cards catalog).length) :
    (context.cards catalog)[index] =
      Card.project context index catalog.reports[index]
        (catalog.linkOf catalog.reports[index] (List.getElem_mem inside)) := by
  simp [Context.cards, Catalog.entries]

/-- A card's target is its link, resolved with the active version. -/
theorem Context.href_of_mem_cards
    {context : Context}
    {catalog : Catalog}
    {card : Card}
    (member : card ∈ context.cards catalog) :
    card.href = card.link.resolve context.activeVersion context.links := by
  obtain ⟨index, inside, rfl⟩ := List.mem_iff_getElem.mp member
  rw [Context.getElem_cards context catalog index (by simpa [Catalog.size] using inside) inside]
  rfl

/-- A card shows its report: the target is the report's, resolved with the
version as the context has it. -/
structure Card.Shows (context : Context) (report : Report) (card : Card) : Prop where
  label_eq : card.label = report.label
  base_eq : card.link.base = report.href
  href_eq : card.href = context.links.resolve report.href context.version
  description_eq : card.description = report.description

theorem Card.shows_project
    (context : Context)
    (index : Nat)
    (report : Report)
    (link : VersionedHref)
    (ownLink : link.base = report.href) :
    Card.Shows context report (Card.project context index report link) where
  label_eq := rfl
  base_eq := ownLink
  href_eq := by
    rw [Card.project, VersionedHref.resolve, Context.activeVersion,
      LinkStrategy.resolve_activeVersion, ownLink]
  description_eq := rfl

/-- There is one card a report, in the same order. -/
theorem Context.cards_show_reports (context : Context) (catalog : Catalog) :
    List.Forall₂ (Card.Shows context) catalog.reports (context.cards catalog) := by
  rw [List.forall₂_iff_get]
  refine ⟨(Context.length_cards context catalog).symm, ?_⟩
  intro index inside insideCards
  rw [List.get_eq_getElem, List.get_eq_getElem]
  change Card.Shows context catalog.reports[index] (context.cards catalog)[index]
  rw [Context.getElem_cards context catalog index inside insideCards]
  exact Card.shows_project context index _ _ rfl

end ReportIndex
