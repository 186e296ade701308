import ReportIndex.Card
import ReportIndex.Page.Icon

/-!
Contract: the parts that pages are put together from.

Owns:
- the pair of illustrations, the versioned link, the card and the grid;
- the button that switches the theme.

Does not own: the document around them.

No part looks at anything but its arguments.
-/

namespace ReportIndex.Page

open Markup

/-- Both illustrations of a card. The style sheet hides the one that does not
match the theme. -/
def themedImage (light dark alternative : String) : List Node :=
  [ .void "img" [⟨"src", light⟩, ⟨"alt", alternative⟩, ⟨"loading", "lazy"⟩] (some "graph-light"),
    .void "img" [⟨"src", dark⟩, ⟨"alt", alternative⟩, ⟨"loading", "lazy"⟩] (some "graph-dark") ]

/-- The classes of a link unless others are asked for. -/
def cardClass : String := "report-card"

/-- A link to `href` for the active version. -/
def versionedLink
    (href : VersionedHref)
    (version : Option String)
    (links : LinkStrategy)
    (classes : String)
    (children : List Node) :
    Node :=
  .element "a" [⟨"href", href.resolve version links⟩] (some classes) children

/-- The card of a report: one link around illustrations, label and description. -/
def cardNode
    (card : Card)
    (version : Option String)
    (links : LinkStrategy) :
    Node :=
  versionedLink card.link version links cardClass
    [ .element "div" [] (some "report-card-media")
        (themedImage card.lightSource card.darkSource card.description),
      .element "div" [] (some "report-card-body")
        [ .element "h2" [] (some "report-card-label") [.text card.label],
          .element "p" [] (some "report-card-description") [.text card.description] ] ]

/-- The grid of all cards. -/
def gridNode (catalog : Catalog) (context : Context) : Node :=
  .element "section" [⟨"data-count", toString catalog.size⟩] (some "reports-grid")
    ((context.cards catalog).map (fun card => cardNode card context.activeVersion context.links)
      ++ [.marker])

/-- The button that switches between light and dark. -/
def themeToggle : Node :=
  .element "button"
    [⟨"data-role", "theme-toggle"⟩, ⟨"title", "Toggle light/dark mode"⟩]
    (some "theme-toggle")
    [ icon sunPath defaultIconSize "theme-icon-light",
      icon moonPath defaultIconSize "theme-icon-dark" ]

end ReportIndex.Page
