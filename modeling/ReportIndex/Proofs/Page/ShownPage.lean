import ReportIndex.Proofs.Markup.Tag
import ReportIndex.Proofs.Page.ShownCard

/-!
Contract: what a reader sees of a whole page.

Owns:
- the events of a page, before the grid, in it and behind it;
- the links and the cards of a page, which are those of its grid;
- the version badge, and the addresses of the illustrations.

Does not own: how markup is read.
-/

namespace ReportIndex.Page

open Markup

/-! ## Around the grid -/

/-- What a reader of a page meets before the grid. -/
def beforeGrid (catalog : Catalog) (context : Context) : List Event :=
  .start "!DOCTYPE" [] :: .character '\n'
    :: .start "html" (writtenAttributes [⟨"lang", "en"⟩] (some (context.theme.rootClass.getD "")))
    :: (headNode context).events
    ++ .start "body" [] :: .start "div" (writtenAttributes [] (some "container"))
    :: (headerNode context).events
    ++ (emptyNote catalog).events

/-- What a reader of a page meets behind the grid. -/
def behindGrid : List Event :=
  .stop "div" :: .start "script" [] :: toggleThemeScript.toList.map .character
    ++ [.stop "script", .stop "body", .stop "html"]

/-- The events of a document, whatever its parts are: they are kept apart here so that
none of them has to be read. -/
theorem events_document
    (classes script : String)
    (head header note grid : Node) :
    (Node.element "html" [⟨"lang", "en"⟩] (some classes)
        [ head,
          .element "body" [] none
            [ .element "div" [] (some "container") [header, note, grid],
              .element "script" [] none [.raw script] ] ]).events =
      (.start "html" (writtenAttributes [⟨"lang", "en"⟩] (some classes)) :: head.events
          ++ .start "body" [] :: .start "div" (writtenAttributes [] (some "container"))
          :: header.events ++ note.events)
        ++ grid.events
        ++ (.stop "div" :: .start "script" [] :: script.toList.map .character
          ++ [.stop "script", .stop "body", .stop "html"]) := by
  simp [Node.events, eventsAll, writtenAttributes]

/-- The declaration of a document is one tag and a line break. -/
theorem eventsFrom_doctype (rest : List Char) :
    eventsFrom .text [] (doctype.toList ++ rest) =
      .start "!DOCTYPE" [] :: .character '\n' :: eventsFrom .text [] rest := by
  have spelled : doctype.toList =
      ['<', '!', 'D', 'O', 'C', 'T', 'Y', 'P', 'E', ' ', 'h', 't', 'm', 'l', '>', '\n'] := by
    simp [doctype]
  rw [spelled]
  rfl

theorem events_page (catalog : Catalog) (context : Context) :
    events (page catalog context) =
      beforeGrid catalog context ++ (gridNode catalog context).events ++ behindGrid := by
  have document := (documentNode catalog context).eventsFrom_write []
    (documentNode_isPlain catalog context)
  rw [List.append_nil, eventsFrom, List.append_nil] at document
  rw [events, page, String.toList_append, eventsFrom_doctype, Node.render, String.toList_ofList,
    document, documentNode, bodyNode, events_document, beforeGrid, behindGrid]
  rfl

/-- The tags of a page outside of the grid. -/
def frameTags : List String :=
  ["!DOCTYPE", "html", "head", "meta", "title", "style", "script", "body", "div", "header", "h1",
    "span", "!", "button", "svg", "path", "p"]

/-- The tags of a grid. -/
def gridTags : List String :=
  ["section", "a", "div", "img", "h2", "p", "!"]

theorem tags_headNode (context : Context) : (headNode context).tags ⊆ frameTags := by
  simp [headNode, Node.tags, tagsAll, frameTags]

theorem tags_headerNode (context : Context) : (headerNode context).tags ⊆ frameTags := by
  cases active : context.activeVersion <;>
    simp [headerNode, active, versionBadge, themeToggle, icon, Node.tags, tagsAll, frameTags]

theorem tags_emptyNote (catalog : Catalog) : (emptyNote catalog).tags ⊆ frameTags := by
  rw [emptyNote]
  split <;> simp [Node.tags, tagsAll, frameTags]

theorem tags_gridNode (catalog : Catalog) (context : Context) :
    (gridNode catalog context).tags ⊆ gridTags := by
  have cards : tagsAll ((context.cards catalog).map fun card =>
      cardNode card context.activeVersion context.links) ⊆ gridTags := by
    intro tag member
    obtain ⟨_, isCard, inCard⟩ := (mem_tagsAll_iff _ _).mp member
    obtain ⟨card, _, rfl⟩ := List.mem_map.mp isCard
    have known : (cardNode card context.activeVersion context.links).tags ⊆ gridTags := by
      simp [cardNode, versionedLink, themedImage, Node.tags, tagsAll, gridTags]
    exact known inCard
  rw [gridNode, Node.tags, tagsAll_append]
  refine List.cons_subset.mpr ⟨by simp [gridTags], List.append_subset.mpr ⟨cards, ?_⟩⟩
  simp [tagsAll, Node.tags, gridTags]

section

variable {tag : String} (outside : tag ∉ frameTags)

include outside

theorem ne_of_outside {other : String} (known : other ∈ frameTags) : other ≠ tag := by
  rintro rfl
  exact outside known

theorem elements_of_frame
    {node : Node}
    (known : node.tags ⊆ frameTags)
    (rest : List Event) :
    elements tag (node.events ++ rest) = elements tag rest :=
  node.elements_events rest fun member => outside (known member)

/-- What stands before the grid has no element of a tag of the grid's own. -/
theorem elements_beforeGrid (catalog : Catalog) (context : Context) (rest : List Event) :
    elements tag (beforeGrid catalog context ++ rest) = elements tag rest := by
  have declaration : "!DOCTYPE" ≠ tag := ne_of_outside outside (by decide)
  have html : "html" ≠ tag := ne_of_outside outside (by decide)
  have body : "body" ≠ tag := ne_of_outside outside (by decide)
  have container : "div" ≠ tag := ne_of_outside outside (by decide)
  simp only [beforeGrid, List.cons_append, List.append_assoc, elements, declaration, html, body,
    container, if_false, elements_of_frame outside (tags_headNode context),
    elements_of_frame outside (tags_headerNode context),
    elements_of_frame outside (tags_emptyNote catalog)]

end

theorem elements_script {tag : String} (notScript : tag ≠ "script") (script : String) :
    elements tag
        (.stop "div" :: .start "script" [] :: script.toList.map .character
          ++ [.stop "script", .stop "body", .stop "html"]) =
      [] := by
  simp [elements, Ne.symm notScript]

theorem elements_behindGrid {tag : String} (notScript : tag ≠ "script") :
    elements tag behindGrid = [] :=
  elements_script notScript toggleThemeScript

/-! ## Links and cards -/

section

variable (catalog : Catalog) (context : Context)

/-- The links of a grid are those of its cards, whatever follows the grid. -/
theorem elements_gridNode_append (rest : List Event) :
    elements "a" ((gridNode catalog context).events ++ rest) =
      ((context.cards catalog).map fun card =>
        (anchorAttributes card context.activeVersion context.links, insideCard card))
        ++ elements "a" rest := by
  rw [gridNode, Node.events, List.append_assoc, List.cons_append, elements, if_neg (by decide),
    eventsAll_append, List.append_assoc, elements_cards]
  simp [eventsAll, Node.events, elements]

/-- All links of a page are those of its cards. -/
theorem links_page :
    elements "a" (events (page catalog context)) =
      (context.cards catalog).map fun card =>
        (anchorAttributes card context.activeVersion context.links, insideCard card) := by
  have outside : "a" ∉ frameTags := by decide
  rw [events_page, List.append_assoc, elements_beforeGrid outside, elements_gridNode_append,
    elements_behindGrid (by decide), List.append_nil]

theorem links_grid :
    elements "a" (events (grid catalog context)) =
      (context.cards catalog).map fun card =>
        (anchorAttributes card context.activeVersion context.links, insideCard card) := by
  rw [grid, events_render (gridNode_isPlain catalog context), elements_gridNode]

/-- A reader of a page sees the same cards as a reader of its grid. -/
theorem shownCards_page : shownCards (page catalog context) = shownCards (grid catalog context) := by
  rw [shownCards, shownCards, cardAnchors, cardAnchors, links_page, links_grid]

/-! ## The version badge -/

/-- The versions that a reader sees in badges. -/
def shownBadges (markup : String) : List String :=
  ((elements "span" (events markup)).filter fun badge =>
    valuesOf "class" badge.1 == ["version-badge"]).map fun badge => textOf badge.2

theorem badges_grid : shownBadges (grid catalog context) = [] := by
  have absent : "span" ∉ (gridNode catalog context).tags :=
    fun member => absurd (tags_gridNode catalog context member) (by decide)
  have nothing := (gridNode catalog context).elements_events [] absent
  rw [List.append_nil] at nothing
  rw [shownBadges, grid, events_render (gridNode_isPlain catalog context), nothing]
  rfl

/-- What a reader who looks for badges finds before the grid. -/
theorem spans_beforeGrid (rest : List Event) :
    elements "span" (beforeGrid catalog context ++ rest) =
      (context.activeVersion.map fun active =>
        ([⟨"class", "version-badge"⟩], (escapeText active).map .character)).toList
        ++ elements "span" rest := by
  have notInHead : "span" ∉ (headNode context).tags := by
    simp [headNode, Node.tags, tagsAll]
  have notInNote : "span" ∉ (emptyNote catalog).tags := by
    rw [emptyNote]
    split <;> simp [Node.tags, tagsAll]
  have notInToggle : "span" ∉ themeToggle.tags := by
    simp [themeToggle, icon, Node.tags, tagsAll]
  have trimmed : Text.trim "version-badge" = "version-badge" := by decide
  have head := fun rest => (headNode context).elements_events rest notInHead
  have note := fun rest => (emptyNote catalog).elements_events rest notInNote
  have toggle := fun rest => themeToggle.elements_events rest notInToggle
  rw [beforeGrid, headerNode]
  -- The parts without a badge are long, and need not be looked into.
  generalize (headNode context).events = inHead at head ⊢
  generalize (emptyNote catalog).events = inNote at note ⊢
  generalize themeToggle = inToggle at toggle ⊢
  cases active : context.activeVersion <;>
    simp [versionBadge, elements, head, note, toggle, Node.events, eventsAll, writtenAttributes,
      trimmed]

/-- A page has a badge exactly if a version is active, and it shows that version. -/
theorem badges_page : shownBadges (page catalog context) = context.activeVersion.toList := by
  have notInGrid : "span" ∉ (gridNode catalog context).tags :=
    fun member => absurd (tags_gridNode catalog context member) (by decide)
  rw [shownBadges, events_page, List.append_assoc, spans_beforeGrid,
    (gridNode catalog context).elements_events _ notInGrid, elements_behindGrid (by decide)]
  cases active : context.activeVersion with
  | none => rfl
  | some version =>
      obtain ⟨_, _, _, present⟩ := (activeVersion_eq_some_iff _ _).mp active
      simp [valuesOf, shownText, present]

end

/-! ## Illustrations -/

/-- The addresses of illustrations among events. -/
def imagesIn (found : List Event) : List String :=
  (elements "img" found).flatMap fun image => valuesOf "src" image.1

theorem imagesIn_append (left right : List Event) :
    imagesIn (left ++ right) = imagesIn left ++ imagesIn right := by
  induction left with
  | nil => rfl
  | cons event events inductionHypothesis =>
      cases event with
      | start tag attributes =>
          by_cases isImage : tag = "img"
          · simpa [imagesIn, elements, isImage] using inductionHypothesis
          · simpa [imagesIn, elements, isImage] using inductionHypothesis
      | _ => exact inductionHypothesis

theorem imagesIn_cardNode (card : Card) (version : Option String) (links : LinkStrategy) :
    imagesIn (cardNode card version links).events = [card.lightSource, card.darkSource] := by
  simp [imagesIn, cardNode, versionedLink, themedImage, Node.events, eventsAll, elements,
    writtenAttributes, valuesOf]

theorem imagesIn_cards (cards : List Card) (version : Option String) (links : LinkStrategy) :
    imagesIn (eventsAll (cards.map fun card => cardNode card version links)) =
      cards.flatMap fun card => [card.lightSource, card.darkSource] := by
  induction cards with
  | nil => rfl
  | cons card others inductionHypothesis =>
      rw [List.map_cons, eventsAll, imagesIn_append, imagesIn_cardNode, inductionHypothesis,
        List.flatMap_cons]

section

variable (catalog : Catalog) (context : Context)

theorem imagesIn_gridNode :
    imagesIn (gridNode catalog context).events =
      (context.cards catalog).flatMap fun card => [card.lightSource, card.darkSource] := by
  have opening : ∀ attributes, imagesIn [.start "section" attributes] = [] := fun _ => rfl
  have marker : imagesIn (eventsAll [.marker]) = [] := rfl
  have closing : imagesIn [.stop "section"] = [] := rfl
  rw [gridNode, Node.events, imagesIn_append, closing, ← List.singleton_append, imagesIn_append,
    opening, eventsAll_append, imagesIn_append, marker, imagesIn_cards]
  simp

/-- The illustrations of a page are those of its cards. -/
theorem images_page :
    imagesIn (events (page catalog context)) =
      (context.cards catalog).flatMap fun card => [card.lightSource, card.darkSource] := by
  have outside : "img" ∉ frameTags := by decide
  have before := elements_beforeGrid outside catalog context []
  rw [List.append_nil] at before
  have nothingBefore : imagesIn (beforeGrid catalog context) = [] := by
    rw [imagesIn, before]
    rfl
  have nothingBehind : imagesIn behindGrid = [] := by
    rw [imagesIn, elements_behindGrid (by decide)]
    rfl
  rw [events_page, imagesIn_append, imagesIn_append, nothingBefore, nothingBehind,
    imagesIn_gridNode, List.nil_append, List.append_nil]

end

end ReportIndex.Page
