import ReportIndex.Catalog.Basic
import ReportIndex.Context
import ReportIndex.Json.Printer

/-!
Contract: the values that the card of a report shows.

Owns:
- the projection of a catalog into its cards;
- the JSON form of a card.

Does not own: the markup of a card.
-/

namespace ReportIndex

structure Card where
  /-- The report's position in the catalog. -/
  index : Nat
  label : String
  /-- The stored target. -/
  link : VersionedHref
  /-- The target shown to the user. -/
  href : String
  lightSource : String
  darkSource : String
  /-- The text of the card, and the alternative text of both illustrations. -/
  description : String
deriving DecidableEq, Repr

namespace Card

def project
    (context : Context)
    (index : Nat)
    (report : Report)
    (link : VersionedHref) :
    Card :=
  { index
    label := report.label
    link
    href := link.resolve context.activeVersion context.links
    lightSource := context.assets.light index
    darkSource := context.assets.dark index
    description := report.description }

def toJson (card : Card) : Json.Value :=
  .object
    [ ("index", .number (.natural card.index)),
      ("label", .string card.label),
      ("base_href", .string card.link.base),
      ("href", .string card.href),
      ("light_src", .string card.lightSource),
      ("dark_src", .string card.darkSource),
      ("description", .string card.description) ]

end Card

/-- The cards of a catalog, in display order. -/
def Context.cards (context : Context) (catalog : Catalog) : List Card :=
  catalog.entries.mapIdx fun index entry => Card.project context index entry.1 entry.2

@[simp]
theorem Context.length_cards (context : Context) (catalog : Catalog) :
    (context.cards catalog).length = catalog.size := by
  simp [Context.cards]

end ReportIndex
