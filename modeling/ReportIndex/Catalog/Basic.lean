import ReportIndex.Link.Strategy

/-!
Contract: the ordered list of reports that a page shows.

Owns:
- one report's label, target and description;
- catalogs, in which no report has a blank target.

Does not own: the documents that catalogs are read from.

The order is the order of display, and a report's position is the number under
which its illustrations are found.
-/

namespace ReportIndex

/-- One entry of the index. The description is also the alternative text of
both illustrations. -/
structure Report where
  label : String
  href : String
  description : String
deriving DecidableEq, Repr, Inhabited

def Report.hasBlankHref (report : Report) : Bool :=
  Text.isBlankText report.href

/-- Reports in display order, each with a target that is not blank. -/
structure Catalog where
  reports : List Report
  href_not_blank : ∀ report ∈ reports, report.hasBlankHref = false

/-- The report at this position has a blank target. -/
structure BlankHref where
  index : Nat
deriving DecidableEq, Repr

def BlankHref.message (error : BlankHref) : String :=
  "report at index " ++ toString error.index ++ " has an empty href"

namespace Catalog

def empty : Catalog := ⟨[], by simp⟩

instance : Inhabited Catalog := ⟨empty⟩

/-- The catalog of these reports, or the first one whose target is blank. -/
def ofReports (reports : List Report) : Except BlankHref Catalog :=
  match found : reports.findIdx? Report.hasBlankHref with
  | some index => .error ⟨index⟩
  | none => .ok ⟨reports, List.findIdx?_eq_none_iff.1 found⟩

def size (catalog : Catalog) : Nat :=
  catalog.reports.length

def isEmpty (catalog : Catalog) : Bool :=
  catalog.reports.isEmpty

/-- The checked target of a report of the catalog. -/
def linkOf
    (catalog : Catalog)
    (report : Report)
    (member : report ∈ catalog.reports) :
    VersionedHref :=
  { base := report.href, base_not_blank := catalog.href_not_blank report member }

/-- Every report with its checked target. -/
def entries (catalog : Catalog) : List (Report × VersionedHref) :=
  catalog.reports.attach.map fun report =>
    (report.val, catalog.linkOf report.val report.property)

@[simp]
theorem reports_of_entries (catalog : Catalog) :
    catalog.entries.map Prod.fst = catalog.reports := by
  simp [entries, Function.comp_def]

@[simp]
theorem length_entries (catalog : Catalog) :
    catalog.entries.length = catalog.size := by
  simp [entries, size]

end Catalog

end ReportIndex
