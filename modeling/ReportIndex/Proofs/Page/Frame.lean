import ReportIndex.Proofs.Page.ShownPage
import ReportIndex.Proofs.Page.Version

/-!
Contract: a page is its grid in a frame.

Owns:
- the markup of a page in front of its grid and behind it;
- what a reader of the front sees: title, heading, version badge and note;
- what the front depends on, and that the grid does not depend on title and theme.

Does not own: what a reader sees of the grid.
-/

namespace ReportIndex.Page

open Markup

/-! ## Front and back -/

/-- The markup of a page in front of its grid. -/
def front (catalog : Catalog) (context : Context) : String :=
  doctype ++ String.ofList
    (openTag "html" [⟨"lang", "en"⟩] (some (context.theme.rootClass.getD ""))
      ++ (headNode context).write
      ++ openTag "body" [] none
      ++ openTag "div" [] (some "container")
      ++ (headerNode context).write
      ++ (emptyNote catalog).write)

/-- The markup of a page behind its grid. -/
def back : String :=
  String.ofList
    (closeTag "div"
      ++ (Node.element "script" [] none [.raw toggleThemeScript]).write
      ++ closeTag "body"
      ++ closeTag "html")

section

variable (catalog : Catalog) (context : Context)

theorem page_eq_framed_grid :
    page catalog context = front catalog context ++ grid catalog context ++ back := by
  apply String.toList_injective
  simp only [page, front, grid, back, documentNode, bodyNode, Node.render, Node.write, writeAll,
    String.toList_append, String.toList_ofList, List.append_assoc, List.append_nil]

/-- What a reader of a page meets before the grid is what stands in front of it. -/
theorem events_front : events (front catalog context) = beforeGrid catalog context := by
  have note := (emptyNote catalog).eventsFrom_write [] (emptyNote_isPlain catalog)
  rw [List.append_nil, eventsFrom, List.append_nil] at note
  have html : isPlainName "html" = true := by decide
  have body : isPlainName "body" = true := by decide
  have container : isPlainName "div" = true := by decide
  have language : [(⟨"lang", "en"⟩ : Attribute)].all (fun given => isPlainName given.name) = true := by
    decide
  rw [events, front, String.toList_append, String.toList_ofList, eventsFrom_doctype]
  simp only [List.append_assoc]
  rw [eventsFrom_openTag html language, Node.eventsFrom_write _ _ (headNode_isPlain context),
    eventsFrom_openTag body rfl, eventsFrom_openTag container rfl,
    Node.eventsFrom_write _ _ (headerNode_isPlain context), note, beforeGrid]
  simp [writtenAttributes]

end

/-! ## What a reader of the front sees -/

/-- The titles of a document. -/
def shownTitles (markup : String) : List String :=
  (elements "title" (events markup)).map fun title => textOf title.2

/-- The headings, each up to the first tag in it. -/
def shownHeadings (markup : String) : List String :=
  (elements "h1" (events markup)).map fun heading =>
    textOf (heading.2.takeWhile (·.character?.isSome))

/-- The notes that there are no reports. -/
def shownNotes (markup : String) : List String :=
  ((elements "p" (events markup)).filter fun note =>
    valuesOf "class" note.1 == ["reports-empty"]).map fun note => textOf note.2

/-- A text that stands in front of a tag is read up to the tag. -/
theorem takeWhile_text
    (characters : List Char)
    (tag : String)
    (attributes : List Attribute)
    (rest : List Event) :
    (characters.map Event.character ++ .start tag attributes :: rest).takeWhile
        (·.character?.isSome) =
      characters.map Event.character := by
  rw [List.takeWhile_append_of_pos]
  · rw [List.takeWhile_cons_of_neg (by simp [Event.character?]), List.append_nil]
  · intro event member
    obtain ⟨character, _, rfl⟩ := List.mem_map.mp member
    rfl

/-- A head has the title that is in it, whatever style sheet and script follow. -/
theorem titles_head
    (title style script : String)
    {before : List Node}
    (absent : "title" ∉ tagsAll before)
    (rest : List Event) :
    elements "title"
        ((Node.element "head" [] none
          (before ++
            [ .element "title" [] none [.text title],
              .element "style" [] none [.raw style],
              .element "script" [] none [.raw script] ])).events ++ rest) =
      ([], (escapeText title).map .character) :: elements "title" rest := by
  have skipped := fun rest => elements_eventsAll before rest absent
  simp [Node.events, eventsAll, eventsAll_append, elements, writtenAttributes, skipped]

section

variable {tag : String}

theorem elements_header
    (absent : tag ∉ ["header", "h1", "span", "!", "button", "svg", "path"])
    (context : Context)
    (rest : List Event) :
    elements tag ((headerNode context).events ++ rest) = elements tag rest := by
  refine (headerNode context).elements_events rest fun member => absent ?_
  refine (?_ : (headerNode context).tags ⊆ _) member
  cases active : context.activeVersion <;>
    simp [headerNode, active, versionBadge, themeToggle, icon, Node.tags, tagsAll]

theorem elements_note (absent : tag ∉ ["p", "!"]) (catalog : Catalog) :
    elements tag (emptyNote catalog).events = [] := by
  have absentHere : tag ∉ (emptyNote catalog).tags := fun member => absent (by
    refine (?_ : (emptyNote catalog).tags ⊆ _) member
    rw [emptyNote]
    split <;> simp [Node.tags, tagsAll])
  have skipped := (emptyNote catalog).elements_events [] absentHere
  rwa [List.append_nil] at skipped

theorem elements_head
    (absent : tag ∉ ["head", "meta", "title", "style", "script"])
    (context : Context)
    (rest : List Event) :
    elements tag ((headNode context).events ++ rest) = elements tag rest := by
  refine (headNode context).elements_events rest fun member => absent ?_
  refine (?_ : (headNode context).tags ⊆ _) member
  simp [headNode, Node.tags, tagsAll]

end

section

variable (catalog : Catalog) (context : Context)

theorem titles_headNode (rest : List Event) :
    elements "title" ((headNode context).events ++ rest) =
      ([], (escapeText context.title).map .character) :: elements "title" rest := by
  have absent : "title" ∉ tagsAll
      [ .void "meta" [⟨"charset", "UTF-8"⟩] none,
        .void "meta"
          [⟨"name", "viewport"⟩, ⟨"content", "width=device-width, initial-scale=1"⟩] none,
        .void "meta"
          [⟨"http-equiv", "Content-Security-Policy"⟩, ⟨"content", policyText context.assets⟩]
          none ] := by
    simp [Node.tags, tagsAll]
  exact titles_head context.title styleSheet restoreThemeScript absent rest

/-- The header has one heading, in which the badge or its marker follows the title. -/
theorem headings_headerNode (rest : List Event) :
    elements "h1" ((headerNode context).events ++ rest) =
      (writtenAttributes [] (some "page-title"),
        (escapeText context.title).map .character ++ (versionBadge context.activeVersion).events)
        :: elements "h1" rest := by
  have absent : "h1" ∉ themeToggle.tags := by simp [themeToggle, icon, Node.tags, tagsAll]
  have toggle := fun rest => themeToggle.elements_events rest absent
  rw [headerNode]
  generalize themeToggle = inToggle at toggle ⊢
  cases context.activeVersion <;>
    simp [versionBadge, Node.events, eventsAll, elements, toggle]

theorem titles_front : shownTitles (front catalog context) = [shownText context.title] := by
  have found : elements "title" (beforeGrid catalog context) =
      [([], (escapeText context.title).map .character)] := by
    simp [beforeGrid, elements, titles_headNode, elements_header, elements_note]
  rw [shownTitles, events_front, found]
  simp

theorem headings_front : shownHeadings (front catalog context) = [shownText context.title] := by
  have found : elements "h1" (beforeGrid catalog context) =
      [(writtenAttributes [] (some "page-title"),
        (escapeText context.title).map .character
          ++ (versionBadge context.activeVersion).events)] := by
    simp [beforeGrid, elements, elements_head, headings_headerNode, elements_note]
  rw [shownHeadings, events_front, found]
  cases context.activeVersion <;> simp [versionBadge, Node.events, takeWhile_text]

theorem badges_front : shownBadges (front catalog context) = context.activeVersion.toList := by
  have found := spans_beforeGrid catalog context []
  rw [List.append_nil] at found
  rw [shownBadges, events_front, found]
  cases active : context.activeVersion with
  | none => rfl
  | some version =>
      obtain ⟨_, _, _, present⟩ := (activeVersion_eq_some_iff _ _).mp active
      simp [elements, valuesOf, shownText, present]

theorem notes_front :
    shownNotes (front catalog context) =
      if catalog.isEmpty then ["No reports published yet."] else [] := by
  have trimmed : Text.trim "reports-empty" = "reports-empty" := by decide
  have found : elements "p" (beforeGrid catalog context) =
      elements "p" (emptyNote catalog).events := by
    simp [beforeGrid, elements, elements_head, elements_header]
  rw [shownNotes, events_front, found, emptyNote]
  split <;>
    simp [Node.events, eventsAll, elements, writtenAttributes, valuesOf, trimmed, shownText]

end

/-! ## What the front depends on -/

/-- The policy of a page looks only at whether its images are at a plain origin. -/
theorem policyText_eq
    {root other : AssetRoot}
    (samePlain : root.isPlainHttp = other.isPlainHttp) :
    policyText root = policyText other := by
  rw [policyText, policyText, samePlain]

/-- The catalog and the context look alike from outside of the grid. -/
structure FramedAlike
    (catalog other : Catalog)
    (context otherContext : Context) : Prop where
  title : context.title = otherContext.title
  theme : context.theme = otherContext.theme
  version : context.activeVersion = otherContext.activeVersion
  emptiness : catalog.isEmpty = other.isEmpty
  plainHttp : context.assets.isPlainHttp = otherContext.assets.isPlainHttp

theorem FramedAlike.front_eq
    {catalog other : Catalog}
    {context otherContext : Context}
    (alike : FramedAlike catalog other context otherContext) :
    front catalog context = front other otherContext := by
  rw [front, front, headNode, headNode, headerNode, headerNode, emptyNote, emptyNote, alike.title,
    alike.theme, alike.version, alike.emptiness, policyText_eq alike.plainHttp]

/-- **A page is its grid between a front and a back.** The back is always the same, and
the front is the same for all that look alike from outside of the grid. A reader of the
front sees the title twice, a badge with the active version if there is one, and a note
if there are no reports. The grid depends on neither title nor theme. -/
theorem page_frames_grid (catalog : Catalog) (context : Context) :
    page catalog context = front catalog context ++ grid catalog context ++ back
      ∧ (∀ other otherContext,
          FramedAlike catalog other context otherContext →
          front catalog context = front other otherContext)
      ∧ shownTitles (front catalog context) = [shownText context.title]
      ∧ shownHeadings (front catalog context) = [shownText context.title]
      ∧ shownBadges (front catalog context) = context.activeVersion.toList
      ∧ shownNotes (front catalog context) =
          (if catalog.isEmpty then ["No reports published yet."] else [])
      ∧ ∀ title theme, grid catalog { context with title, theme } = grid catalog context :=
  ⟨page_eq_framed_grid catalog context, fun _ _ alike => alike.front_eq,
    titles_front catalog context, headings_front catalog context, badges_front catalog context,
    notes_front catalog context, fun _ _ => grid_eq rfl rfl rfl catalog⟩

/-- Two catalogs with padded and bare versions, unequal roots at plain origins, and unequal
strategies have one front, in which the title is escaped. -/
theorem page_frames_unequal_grids :
    let startup : Catalog := ⟨[⟨"Startup", "/startup", ""⟩], by decide⟩
    let mount : Catalog := ⟨[⟨"A", "a.html", ""⟩, ⟨"B", "b.html", ""⟩], by decide⟩
    let padded : Context :=
      { title := "</h1> & more", version := some " v<1>\t", assets := .ofText "http://a/" }
    let bare : Context :=
      { title := "</h1> & more", version := some "v<1>", links := .path
        assets := .ofText " HTTP://b//" }
    FramedAlike startup mount padded bare
      ∧ front startup padded = front mount bare
      ∧ page mount bare = front startup padded ++ grid mount bare ++ back
      ∧ shownHeadings (front startup padded) = ["</h1> & more"]
      ∧ shownBadges (front startup padded) = ["v<1>"] := by
  intro startup mount padded bare
  have alike : FramedAlike startup mount padded bare :=
    ⟨rfl, rfl, by decide, rfl, by decide⟩
  obtain ⟨_, sameFront, _, heading, badge, _, _⟩ := page_frames_grid startup padded
  obtain ⟨framed, _⟩ := page_frames_grid mount bare
  have same := sameFront mount bare alike
  refine ⟨alike, same, by rw [same]; exact framed, ?_, ?_⟩
  · rw [heading]
    decide
  · rw [badge]
    decide

end ReportIndex.Page
