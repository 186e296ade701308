import ReportIndex.Proofs.Card
import ReportIndex.Proofs.Markup.Event
import ReportIndex.Proofs.Page.Plain

/-!
Contract: a reader of the grid sees the cards, and nothing else.

Owns:
- what a reader takes from the markup of a grid: every card's anchor with its
  target, illustrations, heading and paragraph;
- the agreement with the cards that the grid was made from.

Does not own: how markup is read.
-/

namespace ReportIndex.Page

open Markup

/-- What a reader sees of a card: every value that stands in each place. -/
structure ShownCard where
  targets : List String
  sources : List String
  alternatives : List String
  headings : List String
  paragraphs : List String
deriving DecidableEq, Repr

/-- What a reader takes from a card's anchor and what is inside of it. -/
def ShownCard.ofAnchor (attributes : List Attribute) (inside : List Event) : ShownCard :=
  let images := (elements "img" inside).map Prod.fst
  { targets := valuesOf "href" attributes
    sources := images.flatMap (valuesOf "src")
    alternatives := images.flatMap (valuesOf "alt")
    headings := (elements "h2" inside).map fun heading => textOf heading.2
    paragraphs := (elements "p" inside).map fun paragraph => textOf paragraph.2 }

/-- The anchors of cards among events. -/
def cardAnchors (found : List Event) : List (List Attribute × List Event) :=
  (elements "a" found).filter fun anchor => valuesOf "class" anchor.1 == [cardClass]

/-- The cards that a reader sees in markup. -/
def shownCards (markup : String) : List ShownCard :=
  (cardAnchors (events markup)).map fun anchor => ShownCard.ofAnchor anchor.1 anchor.2

/-- What is to be seen of a card. -/
def ShownCard.ofCard (card : Card) : ShownCard :=
  { targets := [card.href]
    sources := [card.lightSource, card.darkSource]
    alternatives := [card.description, card.description]
    headings := [shownText card.label]
    paragraphs := [shownText card.description] }

/-! ## Reading one card -/

/-- What a reader meets inside of a card's anchor. -/
def insideCard (card : Card) : List Event :=
  eventsAll
    [ .element "div" [] (some "report-card-media")
        (themedImage card.lightSource card.darkSource card.description),
      .element "div" [] (some "report-card-body")
        [ .element "h2" [] (some "report-card-label") [.text card.label],
          .element "p" [] (some "report-card-description") [.text card.description] ] ]

/-- The attributes of a card's anchor. -/
def anchorAttributes (card : Card) (version : Option String) (links : LinkStrategy) :
    List Attribute :=
  writtenAttributes [⟨"href", card.link.resolve version links⟩] (some cardClass)

theorem elements_cardNode
    (card : Card)
    (version : Option String)
    (links : LinkStrategy)
    (rest : List Event) :
    elements "a" ((cardNode card version links).events ++ rest) =
      (anchorAttributes card version links, insideCard card) :: elements "a" rest := by
  simp [cardNode, versionedLink, themedImage, Node.events, eventsAll, elements, insideCard,
    anchorAttributes]

/-- What stands in a card's anchor shows the card, but for the target, which
the anchor resolves itself. -/
theorem ofAnchor_insideCard
    (card : Card)
    (version : Option String)
    (links : LinkStrategy) :
    ShownCard.ofAnchor (anchorAttributes card version links) (insideCard card) =
      { ShownCard.ofCard card with targets := [card.link.resolve version links] } := by
  simp [ShownCard.ofAnchor, ShownCard.ofCard, anchorAttributes, insideCard, writtenAttributes,
    themedImage, Node.events, eventsAll, elements, valuesOf]

theorem anchorAttributes_class
    (card : Card)
    (version : Option String)
    (links : LinkStrategy) :
    valuesOf "class" (anchorAttributes card version links) = [cardClass] := by
  have trimmed : Text.trim cardClass = cardClass := by decide
  simp [anchorAttributes, writtenAttributes, valuesOf, trimmed]

/-! ## Reading the grid -/

/-- The anchors among the cards of a grid are those of the cards, in order. -/
theorem elements_cards
    (cards : List Card)
    (version : Option String)
    (links : LinkStrategy)
    (rest : List Event) :
    elements "a" (eventsAll (cards.map fun card => cardNode card version links) ++ rest) =
      (cards.map fun card => (anchorAttributes card version links, insideCard card))
        ++ elements "a" rest := by
  induction cards with
  | nil => rfl
  | cons card others inductionHypothesis =>
      rw [List.map_cons, List.map_cons, eventsAll, List.append_assoc, elements_cardNode,
        inductionHypothesis, List.cons_append]

theorem elements_gridNode (catalog : Catalog) (context : Context) :
    elements "a" (gridNode catalog context).events =
      (context.cards catalog).map fun card =>
        (anchorAttributes card context.activeVersion context.links, insideCard card) := by
  rw [gridNode, Node.events, List.cons_append, elements, if_neg (by decide), eventsAll_append,
    List.append_assoc, elements_cards]
  simp [eventsAll, Node.events, elements]

/-- A reader of the grid sees the cards of the catalog. -/
theorem shownCards_grid (catalog : Catalog) (context : Context) :
    shownCards (grid catalog context) = (context.cards catalog).map ShownCard.ofCard := by
  have allCards : cardAnchors (gridNode catalog context).events =
      (context.cards catalog).map fun card =>
        (anchorAttributes card context.activeVersion context.links, insideCard card) := by
    rw [cardAnchors, elements_gridNode, List.filter_eq_self]
    intro anchor member
    obtain ⟨card, _, rfl⟩ := List.mem_map.mp member
    simp [anchorAttributes_class]
  rw [shownCards, grid, events_render (gridNode_isPlain catalog context), allCards, List.map_map]
  refine List.map_congr_left fun card member => ?_
  rw [Function.comp_apply, ofAnchor_insideCard, ShownCard.ofCard,
    Context.href_of_mem_cards member]

/-! ## What a grid tells about its cards -/

/-- Two cards that a reader cannot tell apart but for their position: only an
empty label and a blank one look the same. -/
structure SeenAlike (left right : Card) : Prop where
  href_eq : left.href = right.href
  lightSource_eq : left.lightSource = right.lightSource
  darkSource_eq : left.darkSource = right.darkSource
  description_eq : left.description = right.description
  label_eq : left.label = right.label ∨ (left.label = "" ∧ right.label = " ")
    ∨ (left.label = " " ∧ right.label = "")

theorem seenAlike_of_ofCard_eq
    {left right : Card}
    (equal : ShownCard.ofCard left = ShownCard.ofCard right) :
    SeenAlike left right := by
  simp only [ShownCard.ofCard, ShownCard.mk.injEq, List.cons.injEq, and_true] at equal
  obtain ⟨target, ⟨light, dark⟩, ⟨description, _⟩, label, _⟩ := equal
  exact ⟨target, light, dark, description, (shownText_eq_iff _ _).mp label⟩

/-- **The grid shows exactly the cards.** Its markup holds one card's anchor for
each card and no other, in the order of the catalog, and each is read back to
the values of its card, which are those of its report. So grids with the same
markup have cards that look alike, one by one. -/
theorem grid_shows_exactly_its_cards (catalog : Catalog) (context : Context) :
    shownCards (grid catalog context) = (context.cards catalog).map ShownCard.ofCard ∧
      (context.cards catalog).length = catalog.size ∧
      List.Forall₂ (Card.Shows context) catalog.reports (context.cards catalog) ∧
      ∀ (other : Catalog) (otherContext : Context),
        grid catalog context = grid other otherContext →
          List.Forall₂ SeenAlike (context.cards catalog) (otherContext.cards other) := by
  refine ⟨shownCards_grid catalog context, Context.length_cards context catalog,
    Context.cards_show_reports context catalog, ?_⟩
  intro other otherContext sameMarkup
  have sameShown : (context.cards catalog).map ShownCard.ofCard =
      (otherContext.cards other).map ShownCard.ofCard := by
    rw [← shownCards_grid, ← shownCards_grid, sameMarkup]
  rw [← List.forall₂_eq_eq_eq, List.forall₂_map_left_iff, List.forall₂_map_right_iff] at sameShown
  exact sameShown.imp fun _ _ => seenAlike_of_ofCard_eq

/-- A label that is empty, a padded version and a trailing slash look like a
blank label, the bare version and no slash. -/
theorem grid_of_padded_values :
    let empty : Catalog := ⟨[⟨"", "/a?b=\"&lt;", "<p>&amp;"⟩], by decide⟩
    let blank : Catalog := ⟨[⟨" ", "/a?b=\"&lt;", "<p>&amp;"⟩], by decide⟩
    let padded : Context := { version := some " v 1\t", assets := .ofText " /img// " }
    let bare : Context := { version := some "v 1", assets := .ofText "/img", theme := .dark }
    grid empty padded = grid blank bare ∧
      shownCards (grid empty padded) = (padded.cards empty).map ShownCard.ofCard ∧
      List.Forall₂ SeenAlike (padded.cards empty) (bare.cards blank) := by
  intro empty blank padded bare
  have sameVersion : padded.activeVersion = bare.activeVersion := by decide
  have sameRoot : padded.assets = bare.assets := by decide
  have sameLinks : padded.links = bare.links := rfl
  have sameMarkup : grid empty padded = grid blank bare := by
    simp [grid, gridNode, cardNode, versionedLink, Node.render, Node.write, writeAll, escapeText,
      escapeTextCharacter, Context.cards, Card.project, Catalog.entries, Catalog.linkOf,
      Catalog.size, sameVersion, sameRoot, sameLinks, empty, blank]
  obtain ⟨shown, _, _, alike⟩ := grid_shows_exactly_its_cards empty padded
  exact ⟨sameMarkup, shown, alike blank bare sameMarkup⟩

end ReportIndex.Page
