import ReportIndex.Page.Component
import ReportIndex.Page.Policy
import ReportIndex.Page.Script
import ReportIndex.Page.Style

/-!
Contract: the whole page of a catalog, and the part of it that other pages
embed.

Owns:
- the document around the grid: head, header and scripts;
- `page` and `grid`, the two renderings.

Does not own: the grid's content.

A rendering is a function of catalog and context alone.
-/

namespace ReportIndex.Page

open Markup

/-- The head of the document. The script in it runs before the body is painted,
so that a stored theme is there from the start. -/
def headNode (context : Context) : Node :=
  .element "head" [] none
    [ .void "meta" [⟨"charset", "UTF-8"⟩] none,
      .void "meta"
        [⟨"name", "viewport"⟩, ⟨"content", "width=device-width, initial-scale=1"⟩] none,
      .void "meta"
        [⟨"http-equiv", "Content-Security-Policy"⟩, ⟨"content", policyText context.assets⟩] none,
      .element "title" [] none [.text context.title],
      .element "style" [] none [.raw styleSheet],
      .element "script" [] none [.raw restoreThemeScript] ]

/-- The active version, shown behind the title. -/
def versionBadge (version : Option String) : Node :=
  match version with
  | some active => .element "span" [] (some "version-badge") [.text active]
  | none => .marker

def headerNode (context : Context) : Node :=
  .element "header" [] (some "page-header")
    [ .element "h1" [] (some "page-title")
        [.text context.title, versionBadge context.activeVersion],
      themeToggle ]

/-- What a page says whose catalog is empty. -/
def emptyNote (catalog : Catalog) : Node :=
  if catalog.isEmpty then
    .element "p" [] (some "reports-empty") [.text "No reports published yet."]
  else .marker

def bodyNode (catalog : Catalog) (context : Context) : Node :=
  .element "body" [] none
    [ .element "div" [] (some "container")
        [headerNode context, emptyNote catalog, gridNode catalog context],
      .element "script" [] none [.raw toggleThemeScript] ]

def documentNode (catalog : Catalog) (context : Context) : Node :=
  .element "html" [⟨"lang", "en"⟩] (some (context.theme.rootClass.getD ""))
    [headNode context, bodyNode catalog context]

/-- The declaration that a document begins with. -/
def doctype : String := "<!DOCTYPE html>\n"

/-- The whole page. -/
def page (catalog : Catalog) (context : Context) : String :=
  doctype ++ (documentNode catalog context).render

/-- The grid alone, for a page that brings the style sheet itself. -/
def grid (catalog : Catalog) (context : Context) : String :=
  (gridNode catalog context).render

end ReportIndex.Page
