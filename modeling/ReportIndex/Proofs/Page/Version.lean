import ReportIndex.Command.Output
import ReportIndex.Proofs.Link.ActiveVersion

/-!
Contract: what of a version a rendering reads.

Owns:
- cards, grid and page depend on the version only through its active form.

Does not own: the active form of a version.
-/

namespace ReportIndex

variable
  {context other : Context}
  (sameVersion : context.activeVersion = other.activeVersion)
  (sameLinks : context.links = other.links)
  (sameAssets : context.assets = other.assets)
  (catalog : Catalog)

include sameVersion sameLinks sameAssets

theorem Context.cards_eq : context.cards catalog = other.cards catalog := by
  rw [Context.cards, Context.cards]
  congr 1
  funext index entry
  rw [Card.project, Card.project, sameVersion, sameLinks, sameAssets]

theorem Page.gridNode_eq : Page.gridNode catalog context = Page.gridNode catalog other := by
  rw [Page.gridNode, Page.gridNode, Context.cards_eq sameVersion sameLinks sameAssets, sameVersion,
    sameLinks]

theorem Page.grid_eq : Page.grid catalog context = Page.grid catalog other := by
  rw [Page.grid, Page.gridNode_eq sameVersion sameLinks sameAssets, Page.grid]

theorem Page.page_eq
    (sameTitle : context.title = other.title)
    (sameTheme : context.theme = other.theme) :
    Page.page catalog context = Page.page catalog other := by
  rw [Page.page, Page.page, Page.documentNode, Page.documentNode, Page.headNode, Page.headNode,
    Page.bodyNode, Page.bodyNode, Page.headerNode, Page.headerNode, sameTheme, sameTitle,
    sameVersion, sameAssets, Page.gridNode_eq sameVersion sameLinks sameAssets]

omit sameVersion sameLinks sameAssets in
/-- Versions with the same active form give the same cards. -/
theorem Context.cards_version_eq
    (context : Context)
    {version other : Option String}
    (same : ReportIndex.activeVersion version = ReportIndex.activeVersion other) :
    ({ context with version } : Context).cards catalog =
      ({ context with version := other } : Context).cards catalog := by
  have sameVersion :
      ({ context with version } : Context).activeVersion =
        ({ context with version := other } : Context).activeVersion :=
    same
  exact cards_eq sameVersion rfl rfl catalog

omit sameVersion sameLinks sameAssets in
/-- Versions with the same active form give the same markup. -/
theorem Command.markup_version_eq
    (fragment : Bool)
    (context : Context)
    {version other : Option String}
    (same : activeVersion version = activeVersion other) :
    Command.markup fragment catalog { context with version } =
      Command.markup fragment catalog { context with version := other } := by
  have sameVersion :
      ({ context with version } : Context).activeVersion =
        ({ context with version := other } : Context).activeVersion :=
    same
  rw [Command.markup, Command.markup, Page.grid_eq sameVersion rfl rfl catalog,
    Page.page_eq sameVersion rfl rfl catalog rfl rfl]

end ReportIndex
