import ReportIndex.Proofs.Catalog.Listing
import ReportIndex.Proofs.Command.FreshSite
import ReportIndex.Proofs.Command.RequestEnding

/-!
Contract: what the JSON list of a catalog is good for.

Owns:
- a run that prints the list, and the catalog that its output can be read as.

Does not own: the list of a single card.
-/

namespace ReportIndex.Command

/-- **The JSON list of a catalog is a catalog**, with the same reports in the same
order, each with its resolved target. Without an active version it is the catalog
that has been listed. Positions are printed as numbers, and fit into 64 bits on
every machine that can hold the catalog. -/
theorem json_list_is_catalog
    {request : Request}
    {arguments : ListArguments}
    {config : Config}
    {catalog : Catalog}
    {start : Surroundings}
    (task : request.task = .list arguments)
    (json : arguments.json = true)
    (settings : start.files.settings request.config = .ok config)
    (found : Catalog.inFiles start.files arguments.catalog = .ok catalog)
    (addressable : catalog.size ≤ 2 ^ 64) :
    ∃ text listed final,
      (perform request : Simulation Nat).run start = (0, final)
        ∧ start.Becomes start.files text final
        ∧ Catalog.ofJson text = .ok listed
        ∧ List.Forall₂ (Report.ListedAs (arguments.contextOf config))
            catalog.reports listed.reports
        ∧ listed.reports.map Report.href =
            ((arguments.contextOf config).cards catalog).map Card.href
        ∧ (activeVersion arguments.documentVersion = none → listed = catalog) := by
  have builtIn : (arguments.contextOf config).links.isBuiltIn = true := by
    rw [arguments.contextOf_eq]
    exact config.isBuiltIn_linkStrategy
  have loaded : Catalog.inFiles start.files request.task.catalogPath = .ok catalog := by
    rw [task]
    exact found
  obtain ⟨final, performed, leaves⟩ := perform_leaves request start
  rw [Request.ending_of_loaded settings loaded, task, Task.ending, ListArguments.ending, json]
    at performed leaves
  refine ⟨_, catalog.listed _ builtIn, final, performed, ⟨leaves.files, leaves.output, ?_⟩,
    Catalog.ofJson_listed addressable builtIn, catalog.listed_reports builtIn, ?_, ?_⟩
  · rw [leaves.complaints]
    exact String.append_empty
  · simp [Catalog.listed, Card.report]
  · intro inactive
    refine catalog.listed_eq builtIn ?_
    rw [arguments.contextOf_eq]
    exact inactive

/-- A request for the JSON list of the small catalog, for a version with blanks. -/
def smallListArguments : ListArguments :=
  { catalog := "r.json", documentVersion := some " v 2 ", json := true }

def smallListRequest : Request := { task := .list smallListArguments }

theorem json_list_of_small_catalog :
    ∃ text listed final,
      (perform smallListRequest : Simulation Nat).run (smallStart "") = (0, final)
        ∧ final.output = text
        ∧ Catalog.ofJson text = .ok listed
        ∧ listed.reports.map Report.href = ["a.html?version=v%202"] := by
  have parsed : Config.ofToml "" = .ok {} := by
    cbv
  have renders := renders_small parsed
  have settings : (smallStart "").files.settings smallListRequest.config = .ok {} :=
    renders.settings
  obtain ⟨text, listed, final, performed, becomes, read, _, hrefs, _⟩ :=
    json_list_is_catalog rfl rfl settings renders.catalog (by decide)
  have resolved : ((smallListArguments.contextOf {}).cards smallCatalog).map Card.href =
      ["a.html?version=v%202"] := by
    decide
  exact ⟨text, listed, final, performed, by simpa [smallStart] using becomes.output, read,
    hrefs.trans resolved⟩

end ReportIndex.Command
