import ReportIndex.Proofs.Asset.Address
import ReportIndex.Proofs.Catalog.Listing
import ReportIndex.Proofs.Command.FreshSite
import ReportIndex.Proofs.Command.RequestEnding
import ReportIndex.Proofs.Text.Table

/-!
Contract: when the plain list of a catalog can be read back.

Owns:
- the cells of a card's line, and the same cells in an object of the JSON list;
- which texts of a catalog and its settings keep the list from being read back;
- a run that prints either list.

Does not own: reading lines and cells.
-/

namespace ReportIndex

/-! ## Cells -/

/-- What the line of a card says. -/
def Card.cells (card : Card) : List String :=
  [toString card.index, card.label, card.href, card.lightSource, card.darkSource]

namespace Json

/-- The names under which an object of the JSON list has the cells of a line. -/
def cellNames : List String :=
  ["index", "label", "href", "light_src", "dark_src"]

namespace Value

/-- A text as it is, and a number by its digits. -/
def cell? : Value → Option String
  | .number (.natural magnitude) => some (toString magnitude)
  | .string text => some text
  | _ => none

def cells? : Value → Option (List String)
  | .object members => cellNames.mapM fun name => (member? members name).bind cell?
  | _ => none

def rows? : Value → Option (List (List String))
  | .array items => items.mapM cells?
  | _ => none

end Value

end Json

theorem Card.cells?_toJson (card : Card) : card.toJson.cells? = some card.cells :=
  rfl

theorem Card.rows?_toJson (cards : List Card) :
    (Json.Value.array (cards.map toJson)).rows? = some (cards.map cells) := by
  rw [Json.Value.rows?]
  induction cards with
  | nil => rfl
  | cons card others inductionHypothesis =>
      rw [List.map_cons, List.mapM_cons, cells?_toJson, inductionHypothesis]
      rfl

/-! ## Texts that are shown -/

section

variable {context : Context} {catalog : Catalog} {card : Card}

theorem Context.source_of_mem_cards (member : card ∈ context.cards catalog) :
    card.lightSource = context.assets.address .light card.index
      ∧ card.darkSource = context.assets.address .dark card.index := by
  obtain ⟨index, inside, rfl⟩ := List.mem_iff_getElem.mp member
  rw [Context.getElem_cards context catalog index (by simpa [Catalog.size] using inside) inside]
  exact ⟨rfl, rfl⟩

/-- A mark that is in no name of an illustration stands in the cells exactly if it
stands in what a user has chosen. -/
theorem Context.not_mem_cells_iff
    {mark : Char}
    (notDigit : mark.isDigit = false)
    (notLetter : mark ∉ nameLetters)
    (notSlash : mark ≠ '/')
    (member : card ∈ context.cards catalog) :
    (∀ cell ∈ card.cells, mark ∉ cell.toList) ↔
      ∀ text ∈ [card.label, card.href, context.assets.base], mark ∉ text.toList := by
  obtain ⟨light, dark⟩ := source_of_mem_cards member
  have notNumber := not_mem_toString notDigit card.index
  rw [Card.cells, light, dark]
  simp only [List.forall_mem_cons, AssetRoot.not_mem_address_iff notDigit notLetter notSlash,
    notNumber]
  tauto

end

namespace Command

theorem plainList_eq (cards : List Card) :
    plainList cards = Text.writeRows (cards.map Card.cells) := by
  rw [Text.writeRows, List.map_map]
  rfl

section

variable (context : Context) (catalog : Catalog)

/-- The plain list is read back exactly if no text that a user has chosen holds a tab or
a line break. -/
theorem rowsOf_plainList_iff :
    Text.rowsOf (plainList (context.cards catalog)) =
        (context.cards catalog).map Card.cells ++ [[""]] ↔
      ∀ card ∈ context.cards catalog,
        ∀ text ∈ [card.label, card.href, context.assets.base], Text.IsCell text := by
  have notEmpty : ∀ row ∈ (context.cards catalog).map Card.cells, row ≠ [] := by
    rw [List.forall_mem_map]
    exact fun card _ => List.cons_ne_nil _ _
  rw [plainList_eq, Text.rowsOf_writeRows_iff notEmpty, List.forall_mem_map]
  refine forall₂_congr fun card member => ?_
  have tab : (∀ cell ∈ card.cells, '\t' ∉ cell.toList) ↔
      ∀ text ∈ [card.label, card.href, context.assets.base], '\t' ∉ text.toList :=
    Context.not_mem_cells_iff rfl (by decide) (by decide) member
  have lineBreak : (∀ cell ∈ card.cells, '\n' ∉ cell.toList) ↔
      ∀ text ∈ [card.label, card.href, context.assets.base], '\n' ∉ text.toList :=
    Context.not_mem_cells_iff rfl (by decide) (by decide) member
  constructor
  · intro areCells text chosen
    exact ⟨tab.mp (fun cell isCell => (areCells cell isCell).noTab) text chosen,
      lineBreak.mp (fun cell isCell => (areCells cell isCell).noBreak) text chosen⟩
  · intro areCells cell isCell
    exact ⟨tab.mpr (fun text chosen => (areCells text chosen).noTab) cell isCell,
      lineBreak.mpr (fun text chosen => (areCells text chosen).noBreak) cell isCell⟩

/-- There is one line a card exactly if no text that a user has chosen holds a line
break. -/
theorem count_plainList_iff :
    (plainList (context.cards catalog)).toList.count '\n' = catalog.size ↔
      ∀ card ∈ context.cards catalog,
        ∀ text ∈ [card.label, card.href, context.assets.base], '\n' ∉ text.toList := by
  have oneRowEach : ((context.cards catalog).map Card.cells).length = catalog.size := by simp
  rw [plainList_eq, ← oneRowEach, Text.count_writeRows_iff, List.forall_mem_map]
  exact forall₂_congr fun card member =>
    Context.not_mem_cells_iff rfl (by decide) (by decide) member

end

/-! ## Runs -/

/-- The request for a list, in one of its two forms, with the settings of another. -/
def Request.listing (request : Request) (arguments : ListArguments) (json : Bool) : Request :=
  { request with task := .list { arguments with json } }

section

variable
  (request : Request)
  (arguments : ListArguments)
  {config : Config}
  {catalog : Catalog}
  {start : Surroundings}
  (settings : start.files.settings request.config = .ok config)
  (found : Catalog.inFiles start.files arguments.catalog = .ok catalog)

include settings found

/-- A list is printed, and nothing else happens. -/
theorem perform_listing (json : Bool) :
    ∃ final,
      (perform (request.listing arguments json) : Simulation Nat).run start = (0, final)
        ∧ start.Becomes start.files
            (if json then jsonList ((arguments.contextOf config).cards catalog)
              else plainList ((arguments.contextOf config).cards catalog))
            final := by
  have configured : start.files.settings (request.listing arguments json).config = .ok config :=
    settings
  have loaded :
      Catalog.inFiles start.files (request.listing arguments json).task.catalogPath = .ok catalog :=
    found
  obtain ⟨final, performed, leaves⟩ := perform_leaves (request.listing arguments json) start
  rw [Request.ending_of_loaded configured loaded] at performed leaves
  refine ⟨final, performed, leaves.files, leaves.output, ?_⟩
  rw [leaves.complaints]
  exact String.append_empty

/-- **When the plain list of a catalog can be read back.** Both forms of the list are
printed, and the JSON list has the five values of every card under their names. Lines and
cells of the plain list are these values exactly if no label, no target and not the root
of the illustrations holds a tab or a line break, and it has one line a card exactly if
none of them holds a line break. Positions fit into 64 bits on every machine that can
hold the catalog. -/
theorem plain_list_read_back_iff (addressable : catalog.size ≤ 2 ^ 64) :
    ∃ plain json plainFinal jsonFinal document rows,
      (perform (request.listing arguments false) : Simulation Nat).run start = (0, plainFinal)
        ∧ start.Becomes start.files plain plainFinal
        ∧ (perform (request.listing arguments true) : Simulation Nat).run start = (0, jsonFinal)
        ∧ start.Becomes start.files json jsonFinal
        ∧ Json.parse json = .ok document
        ∧ document.rows? = some rows
        ∧ rows = ((arguments.contextOf config).cards catalog).map Card.cells
        ∧ (Text.rowsOf plain = rows ++ [[""]] ↔
            ∀ card ∈ (arguments.contextOf config).cards catalog,
              ∀ text ∈ [card.label, card.href, (arguments.contextOf config).assets.base],
                Text.IsCell text)
        ∧ (plain.toList.count '\n' = catalog.size ↔
            ∀ card ∈ (arguments.contextOf config).cards catalog,
              ∀ text ∈ [card.label, card.href, (arguments.contextOf config).assets.base],
                '\n' ∉ text.toList) := by
  obtain ⟨plainFinal, performedPlain, becomesPlain⟩ := perform_listing request arguments settings found false
  obtain ⟨jsonFinal, performedJson, becomesJson⟩ := perform_listing request arguments settings found true
  have parsed := parse_jsonList fun card (member : card ∈ (arguments.contextOf config).cards catalog) =>
    Nat.lt_of_lt_of_le (Context.index_lt_of_mem_cards member) addressable
  exact ⟨_, _, plainFinal, jsonFinal, _, _, performedPlain, becomesPlain, performedJson,
    becomesJson, parsed, Card.rows?_toJson _, rfl, rowsOf_plainList_iff _ catalog,
    count_plainList_iff _ catalog⟩

end

/-- A list of the small catalog for a version with blanks, and its single line. -/
theorem plain_list_of_small_catalog :
    ∃ plain final,
      (perform (smallRequest.listing { catalog := "r.json", documentVersion := some " v 2 " } false) :
          Simulation Nat).run (smallStart "") = (0, final)
        ∧ final.output = plain
        ∧ Text.rowsOf plain =
            [["0", "A", "a.html?version=v%202", "/graph-0.svg", "/graph-0-dark.svg"], [""]] := by
  have parsed : Config.ofToml "" = .ok {} := by
    cbv
  have renders := renders_small parsed
  obtain ⟨plain, _, plainFinal, _, _, rows, performed, becomes, _, _, _, _, sameRows, readBack, _⟩ :=
    plain_list_read_back_iff smallRequest
      { catalog := "r.json", documentVersion := some " v 2 " }
      renders.settings renders.catalog (by decide)
  refine ⟨plain, plainFinal, performed, by simpa [smallStart] using becomes.output, ?_⟩
  rw [readBack.mpr (by decide), sameRows]
  decide

/-- A workspace with a catalog whose only label holds a line break. -/
def twoLineStart : Surroundings :=
  { files :=
      { workingDirectory := ["work"]
        entries :=
          [ (["work"], .directory),
            (["work", "r.json"], .file "[[\"A\\nB\", \"a.html\"]]".toUTF8) ] } }

def twoLineCatalog : Catalog := ⟨[⟨"A\nB", "a.html", ""⟩], by decide⟩

theorem inFiles_twoLine : Catalog.inFiles twoLineStart.files "r.json" = .ok twoLineCatalog := by
  have read : twoLineStart.files.read "r.json" = .ok "[[\"A\\nB\", \"a.html\"]]".toUTF8 := by
    have places : twoLineStart.files.before "r.json" ⊆ [[], ["work"]] := by decide
    refine (Files.read_eq_ok _ _ _).mpr ⟨⟨by decide, fun location member => ?_⟩, rfl, by decide⟩
    have known := places member
    simp only [List.mem_cons, List.not_mem_nil, or_false] at known
    rcases known with rfl | rfl <;> rfl
  refine Catalog.inFiles_of_read read ?_
  cbv

theorem settings_twoLine : twoLineStart.files.settings none = .ok {} := by
  refine (Files.settings_eq_ok _ _ _).mpr ⟨nofun, Config.inFiles_of_unread fun content read => ?_⟩
  obtain ⟨_, present, _⟩ := (Files.read_eq_ok _ _ _).mp read
  cases present

/-- The line of the only card is broken where its label is. -/
theorem line_break_in_label :
    ∃ final,
      (perform { task := .list { catalog := "r.json" } } : Simulation Nat).run twoLineStart =
          (0, final)
        ∧ twoLineCatalog.size = 1
        ∧ final.output = "0\tA\nB\ta.html\t/graph-0.svg\t/graph-0-dark.svg\n"
        ∧ Text.rowsOf final.output =
            [["0", "A"], ["B", "a.html", "/graph-0.svg", "/graph-0-dark.svg"], [""]] := by
  obtain ⟨final, performed, becomes⟩ :=
    perform_listing smallRequest { catalog := "r.json" } settings_twoLine inFiles_twoLine false
  have output : final.output = "0\tA\nB\ta.html\t/graph-0.svg\t/graph-0-dark.svg\n" := by
    rw [becomes.output]
    decide
  refine ⟨final, performed, rfl, output, ?_⟩
  rw [output]
  decide

end Command

end ReportIndex
