import ReportIndex.Proofs.Asset
import ReportIndex.Proofs.Command.FreshSite
import ReportIndex.Proofs.Command.RequestEnding
import ReportIndex.Proofs.Page.ShownPage

/-!
Contract: looking for illustrations finds what the page needs.

Owns:
- when a directory that is served under a root answers to an address;
- the report of a run that looks for illustrations, by the addresses of the cards;
- the agreement of its exit status with what a page's images find.

Does not own: the names of illustrations.
-/

namespace ReportIndex

/-- A directory whose files are served under a root has a file at an address. -/
def Files.Serves
    (files : Files)
    (directory : String)
    (root : AssetRoot)
    (address : String) :
    Prop :=
  ∃ name, address = root.base ++ "/" ++ name
    ∧ files.kind? (Path.join directory name) = some .file

theorem Context.source_eq
    {context : Context}
    {catalog : Catalog}
    {address : String}
    (member : address ∈ context.sources catalog) :
    address = context.assets.base ++ "/" ++ lastSegment address := by
  rw [Context.sources_eq] at member
  obtain ⟨index, _, isSource⟩ := List.mem_flatMap.mp member
  simp only [List.mem_cons, List.not_mem_nil, or_false] at isSource
  rcases isSource with rfl | rfl
  · rw [lastSegment_light, AssetRoot.light]
  · rw [lastSegment_dark, AssetRoot.dark]

theorem Files.serves_source_iff
    {context : Context}
    {catalog : Catalog}
    {address : String}
    (member : address ∈ context.sources catalog)
    (files : Files)
    (directory : String) :
    files.Serves directory context.assets address ↔
      files.kind? (Path.join directory (lastSegment address)) = some .file := by
  have written := Context.source_eq member
  constructor
  · rintro ⟨name, same, isFile⟩
    rw [written, String.append_right_inj] at same
    rwa [same]
  · exact fun isFile => ⟨lastSegment address, written, isFile⟩

namespace Command

/-- The last segments of the addresses of a catalog's cards that are no files of a
directory. -/
def missingNames
    (files : Files)
    (directory : String)
    (context : Context)
    (catalog : Catalog) :
    List String :=
  ((context.sources catalog).map lastSegment).filter fun name =>
    files.kind? (Path.join directory name) != some .file

theorem missing_eq
    (files : Files)
    (directory : String)
    (context : Context)
    (catalog : Catalog) :
    files.missing ((illustrationNames catalog.size).map fun name => Path.join directory name) =
      (missingNames files directory context catalog).map fun name => Path.join directory name := by
  rw [missingNames, Context.map_lastSegment_sources, Files.missing, List.filter_map]
  rfl

/-- What a run that looks for illustrations leaves behind: it names those that are
missing, or says that there are none. Each missing one is a record of its own, with a line
break behind it; the directory's name is printed as it is, line breaks included. -/
structure ReportsMissing
    (catalog : Catalog)
    (directory : String)
    (missing : List String)
    (start final : Surroundings)
    (status : Nat) :
    Prop where
  files : final.files = start.files
  allThere :
    missing = [] →
    status = 0
      ∧ final.output = start.output ++ ("ok: " ++ toString catalog.size ++ " reports, "
          ++ toString (catalog.size * 2) ++ " illustrations\n")
      ∧ final.complaints = start.complaints
  someMissing :
    missing ≠ [] →
    status = 1
      ∧ final.output = start.output
          ++ String.join (missing.map fun name =>
            "missing: " ++ Path.join directory name ++ "\n")
      ∧ final.complaints = start.complaints ++ ("[reports-gen] " ++ toString missing.length
          ++ " of " ++ toString (catalog.size * 2) ++ " illustrations missing\n")

theorem missingNames_eq_nil_iff
    (files : Files)
    (directory : String)
    (context : Context)
    (catalog : Catalog) :
    missingNames files directory context catalog = [] ↔
      ∀ address ∈ Page.imagesIn (Markup.events (Page.page catalog context)),
        files.Serves directory context.assets address := by
  have images : Page.imagesIn (Markup.events (Page.page catalog context)) = context.sources catalog :=
    Page.images_page catalog context
  rw [images, missingNames, List.filter_eq_nil_iff, List.forall_mem_map]
  refine forall₂_congr fun address member => ?_
  rw [files.serves_source_iff member]
  simp

variable
  {request : Request}
  {arguments : CheckArguments}
  {config : Config}
  {catalog : Catalog}
  {start : Surroundings}

/-- The report on illustrations names those that are missing. -/
theorem reportsMissing_of_leaves
    {final : Surroundings}
    {missing : List String}
    (sameMissing :
      start.files.missing
          ((illustrationNames catalog.size).map fun name => Path.join arguments.assets name) =
        missing.map fun name => Path.join arguments.assets name)
    (leaves : (arguments.report catalog.size start.files).shown.Leaves start final) :
    ReportsMissing catalog arguments.assets missing start final
      (arguments.report catalog.size start.files).status := by
  rw [CheckArguments.report, sameMissing] at leaves ⊢
  cases missing with
  | nil =>
      refine ⟨leaves.files, fun _ => ⟨rfl, leaves.output, ?_⟩, fun present => absurd rfl present⟩
      exact leaves.complaints.trans String.append_empty
  | cons name others =>
      refine ⟨leaves.files, fun none => absurd none (List.cons_ne_nil name others),
        fun _ => ⟨rfl, ?_, ?_⟩⟩
      · rw [leaves.output, List.map_cons, ← List.map_cons, List.map_map]
        rfl
      · rw [leaves.complaints, List.map_cons, ← List.map_cons, List.length_map]
        rfl

/-- **Looking for illustrations says whether the page is complete.** The names that are
looked for are those at the ends of the cards' addresses, each once, whatever the root
is; those that are no files are reported in the order of the cards, one record for each,
and there are none exactly if the directory, served under the root, has every image of the
page. A record is one line unless the directory's own name holds a line break, which is
printed as it is; the names of illustrations hold none. -/
theorem check_agrees_with_page
    (task : request.task = .check arguments)
    (settings : start.files.settings request.config = .ok config)
    (found : Catalog.inFiles start.files arguments.catalog = .ok catalog)
    (there : start.files.isDirectory arguments.assets = true)
    (context : Context) :
    ∃ status final,
      (perform request : Simulation Nat).run start = (status, final)
        ∧ ReportsMissing catalog arguments.assets
            (missingNames start.files arguments.assets context catalog) start final status
        ∧ (missingNames start.files arguments.assets context catalog).Nodup
        ∧ ((context.sources catalog).map lastSegment).length = catalog.size * 2
        ∧ (status = 0 ↔
            ∀ address ∈ Page.imagesIn (Markup.events (Page.page catalog context)),
              start.files.Serves arguments.assets context.assets address) := by
  have loaded : Catalog.inFiles start.files request.task.catalogPath = .ok catalog := by
    rw [task]
    exact found
  have ending : request.ending start.files = arguments.report catalog.size start.files := by
    rw [Request.ending_of_loaded settings loaded, task, Task.ending, CheckArguments.ending,
      if_pos there]
  obtain ⟨final, performed, leaves⟩ := perform_leaves request start
  rw [ending] at performed leaves
  have reports := reportsMissing_of_leaves
    (missing_eq start.files arguments.assets context catalog) leaves
  refine ⟨_, final, performed, reports, ?_, ?_, ?_⟩
  · rw [missingNames, Context.map_lastSegment_sources]
    exact (nodup_illustrationNames catalog.size).filter _
  · rw [Context.map_lastSegment_sources, length_illustrationNames]
  · rw [← missingNames_eq_nil_iff]
    constructor
    · intro success
      by_contra someMissing
      rw [(reports.someMissing someMissing).1] at success
      cases success
    · exact fun allThere => (reports.allThere allThere).1

/-- A request to look for the illustrations of the small catalog. -/
def smallCheckRequest : Request :=
  { task := .check { catalog := "r.json", assets := "." } }

/-- Both illustrations of the only report are missing. -/
theorem check_of_small_catalog :
    ∃ final,
      (perform smallCheckRequest : Simulation Nat).run (smallStart "") = (1, final)
        ∧ final.output = "missing: ./graph-0.svg\nmissing: ./graph-0-dark.svg\n"
        ∧ final.complaints = "[reports-gen] 2 of 2 illustrations missing\n" := by
  have parsed : Config.ofToml "" = .ok {} := by
    cbv
  have renders := renders_small parsed
  have task : smallCheckRequest.task = .check { catalog := "r.json", assets := "." } := rfl
  have settings : (smallStart "").files.settings smallCheckRequest.config = .ok {} :=
    renders.settings
  have there : (smallStart "").files.isDirectory "." = true := by decide
  obtain ⟨status, final, performed, reports, _⟩ := check_agrees_with_page
    task settings renders.catalog there { assets := .ofText " /static// " }
  have missing : missingNames (smallStart "").files "." { assets := .ofText " /static// " }
      smallCatalog = ["graph-0.svg", "graph-0-dark.svg"] := by
    decide
  dsimp only at reports
  rw [missing] at reports
  obtain ⟨rfl, output, complaints⟩ := reports.someMissing (by simp)
  exact ⟨final, performed, output, complaints⟩

end Command

end ReportIndex
