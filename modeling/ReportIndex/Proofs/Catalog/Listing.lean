import ReportIndex.Command.List
import ReportIndex.Proofs.Catalog.Document
import ReportIndex.Proofs.Json.RoundTrip
import ReportIndex.Proofs.Link.NotBlank

/-!
Contract: the JSON list of a catalog's cards is a catalog document.

Owns:
- the report that a card is listed as;
- reading the list back, card by card.

Does not own: printing and parsing, and the command that prints the list.

A card has more members than an entry needs; those are passed over.
-/

namespace ReportIndex

open Json (Readable)

namespace Card

/-- The report that the card is listed as: its target is the one shown. -/
def report (card : Card) : Report :=
  ⟨card.label, card.href, card.description⟩

theorem describes_toJson (card : Card) : Report.Describes card.toJson card.report := by
  refine .members ⟨[_], [_, _, _, _, _], rfl, ?_⟩ ⟨[_, _, _], [_, _, _], rfl, ?_⟩
    ⟨[_, _, _, _, _, _], [], rfl, nofun⟩
  · simp
  · simp

theorem readable_toJson {card : Card} (small : card.index < 2 ^ 64) (levels : Nat) :
    Readable (levels + 1) card.toJson := by
  refine .object fun member isMember => ?_
  simp only [List.mem_cons, List.not_mem_nil, or_false] at isMember
  rcases isMember with rfl | rfl | rfl | rfl | rfl | rfl | rfl
  · exact .natural levels small
  all_goals exact .string levels _

end Card

theorem Context.index_lt_of_mem_cards
    {context : Context}
    {catalog : Catalog}
    {card : Card}
    (member : card ∈ context.cards catalog) :
    card.index < catalog.size := by
  obtain ⟨index, inside, rfl⟩ := List.mem_iff_getElem.mp member
  rw [Context.length_cards] at inside
  rw [Context.getElem_cards context catalog index inside]
  exact inside

namespace Command

/-- The list is read as one object a card, if every position fits into 64 bits. -/
theorem parse_jsonList
    {cards : List Card}
    (small : ∀ card ∈ cards, card.index < 2 ^ 64) :
    Json.parse (jsonList cards) = .ok (.array (cards.map Card.toJson)) := by
  refine Json.parse_print (.array fun value member => ?_) (by decide)
  obtain ⟨card, listed, rfl⟩ := List.mem_map.mp member
  exact Card.readable_toJson (small card listed) _

/-- A list of cards with targets is a catalog of their reports. -/
theorem ofJson_jsonList
    {cards : List Card}
    (small : ∀ card ∈ cards, card.index < 2 ^ 64)
    {listed : Catalog}
    (reports : listed.reports = cards.map Card.report) :
    Catalog.ofJson (jsonList cards) = .ok listed := by
  rw [Catalog.ofJson, parse_jsonList small]
  refine Catalog.ofValue_of_decides (.accepted (.bare _) ?_)
  rw [reports, List.forall₂_map_left_iff, List.forall₂_map_right_iff]
  exact List.forall₂_same.mpr fun card _ => card.describes_toJson

end Command

/-- The catalog that the cards of another catalog make up: its targets are the
resolved ones. -/
def Catalog.listed
    (catalog : Catalog)
    (context : Context)
    (builtIn : context.links.isBuiltIn = true) :
    Catalog where
  reports := (context.cards catalog).map Card.report
  href_not_blank := by
    intro report member
    obtain ⟨card, shown, rfl⟩ := List.mem_map.mp member
    exact Card.isBlankText_href builtIn shown

theorem Catalog.ofJson_listed
    {catalog : Catalog}
    (addressable : catalog.size ≤ 2 ^ 64)
    {context : Context}
    (builtIn : context.links.isBuiltIn = true) :
    ofJson (Command.jsonList (context.cards catalog)) = .ok (catalog.listed context builtIn) :=
  Command.ofJson_jsonList
    (fun _ member => Nat.lt_of_lt_of_le (Context.index_lt_of_mem_cards member) addressable) rfl

/-- A report is listed as another, with the target that is shown for it. -/
structure Report.ListedAs (context : Context) (report listed : Report) : Prop where
  label_eq : listed.label = report.label
  href_eq : listed.href = context.links.resolve report.href context.version
  description_eq : listed.description = report.description

theorem Report.listedAs_of_shows
    {context : Context}
    {report : Report}
    {card : Card}
    (shows : Card.Shows context report card) :
    ListedAs context report card.report :=
  ⟨shows.label_eq, shows.href_eq, shows.description_eq⟩

/-- Every report is listed, in the same order. -/
theorem Catalog.listed_reports
    (catalog : Catalog)
    {context : Context}
    (builtIn : context.links.isBuiltIn = true) :
    List.Forall₂ (Report.ListedAs context) catalog.reports
      (catalog.listed context builtIn).reports := by
  rw [listed, List.forall₂_map_right_iff]
  exact (context.cards_show_reports catalog).imp fun _ _ => Report.listedAs_of_shows

/-- Without an active version, every report is listed as it is. -/
theorem Report.ListedAs.eq
    {context : Context}
    (inactive : context.activeVersion = none)
    {report listed : Report}
    (listedAs : ListedAs context report listed) :
    report = listed := by
  obtain ⟨sameLabel, sameHref, sameDescription⟩ := listedAs
  rw [Context.activeVersion] at inactive
  rw [LinkStrategy.resolve, inactive] at sameHref
  cases report
  cases listed
  rw [Report.mk.injEq]
  exact ⟨sameLabel.symm, sameHref.symm, sameDescription.symm⟩

theorem Catalog.eq_of_reports_eq
    {catalog other : Catalog}
    (same : catalog.reports = other.reports) :
    catalog = other := by
  cases catalog
  cases other
  cases same
  rfl

theorem Catalog.listed_eq
    (catalog : Catalog)
    {context : Context}
    (builtIn : context.links.isBuiltIn = true)
    (inactive : context.activeVersion = none) :
    catalog.listed context builtIn = catalog := by
  have same := (catalog.listed_reports builtIn).imp fun _ _ => Report.ListedAs.eq inactive
  rw [List.forall₂_eq_eq_eq] at same
  exact eq_of_reports_eq same.symm

end ReportIndex
