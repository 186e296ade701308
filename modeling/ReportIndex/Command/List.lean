import ReportIndex.Command.Render

/-!
Contract: the task that prints the cards of a catalog.

Owns:
- the two forms of the list: a line with five fields a card, and JSON.

Does not own: the values of a card.
-/

namespace ReportIndex.Command

variable {m : Type → Type} [Monad m] [Workspace m]

/-- A card's line: position, label, target and both illustrations, with tabs
between them. -/
def cardLine (card : Card) : String :=
  "\t".intercalate
    [toString card.index, card.label, card.href, card.lightSource, card.darkSource]

def plainList (cards : List Card) : String :=
  String.join (cards.map fun card => cardLine card ++ "\n")

def jsonList (cards : List Card) : String :=
  Json.print (.array (cards.map Card.toJson)) ++ "\n"

/-- The context of a list: that of the settings, with the version asked for. -/
def ListArguments.contextOf (arguments : ListArguments) (config : Config) : Context :=
  match arguments.documentVersion with
  | some version => (Context.ofConfig config).withVersion version
  | none => Context.ofConfig config

def list (arguments : ListArguments) (config : Config) : TaskM m Nat := do
  let catalog ← loadCatalog arguments.catalog
  let _ ← (Config.announceLinkStrategy config : m LinkStrategy)
  let cards := (arguments.contextOf config).cards catalog
  (Workspace.print (if arguments.json then jsonList cards else plainList cards) : m Unit)
  return 0

end ReportIndex.Command
