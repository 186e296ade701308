import Mathlib.Data.List.Forall2
import ReportIndex.Catalog.Document

/-!
Contract: which documents hold a catalog, and how one that does not is refused.

Owns:
- the format of a document and of an entry, said without the readers;
- the rule that decides a document: entries before targets, and the first fault
  of its kind;
- the agreement of the readers with both.

Does not own: the syntax of JSON, and files.
-/

namespace ReportIndex

/-! ## Members -/

namespace Json

/-- This is the value of the last member of a name. -/
def LastMember (members : List (String × Value)) (name : String) (value : Value) : Prop :=
  ∃ earlier later,
    members = earlier ++ (name, value) :: later ∧ ∀ member ∈ later, member.1 ≠ name

def NoMember (members : List (String × Value)) (name : String) : Prop :=
  ∀ member ∈ members, member.1 ≠ name

theorem member?_eq_none_iff (members : List (String × Value)) (name : String) :
    member? members name = none ↔ NoMember members name := by
  simp [member?, NoMember]

theorem member?_eq_some_iff
    (members : List (String × Value))
    (name : String)
    (value : Value) :
    member? members name = some value ↔ LastMember members name value := by
  simp only [member?, Option.map_eq_some_iff, List.find?_eq_some_iff_append, beq_iff_eq]
  constructor
  · rintro ⟨⟨_, _⟩, ⟨rfl, later, earlier, split, others⟩, rfl⟩
    refine ⟨earlier.reverse, later.reverse, ?_, ?_⟩
    · simpa using congrArg List.reverse split
    · simpa using others
  · rintro ⟨earlier, later, rfl, others⟩
    refine ⟨(name, value), ⟨rfl, later.reverse, earlier.reverse, ?_, ?_⟩, rfl⟩
    · simp
    · simpa using others

end Json

open Json (LastMember NoMember)

/-! ## Entries -/

namespace Report

/-- The entries of a document that describe a report: an object with its fields
by name, or a list with them in order. Other members are passed over, and a
description that is missing is empty. -/
inductive Describes : Json.Value → Report → Prop where
  | members
      {members : List (String × Json.Value)}
      {label href description : String}
      (hasLabel : LastMember members "label" (.string label))
      (hasHref : LastMember members "href" (.string href))
      (hasDescription : LastMember members "description" (.string description)) :
      Describes (.object members) ⟨label, href, description⟩
  | membersOnly
      {members : List (String × Json.Value)}
      {label href : String}
      (hasLabel : LastMember members "label" (.string label))
      (hasHref : LastMember members "href" (.string href))
      (noDescription : NoMember members "description") :
      Describes (.object members) ⟨label, href, ""⟩
  | pair (label href : String) :
      Describes (.array [.string label, .string href]) ⟨label, href, ""⟩
  | triple (label href description : String) :
      Describes (.array [.string label, .string href, .string description])
        ⟨label, href, description⟩

theorem readText_eq_ok_iff (value : Json.Value) (text : String) :
    readText value = .ok text ↔ value = .string text := by
  cases value <;> simp [readText]

theorem readField?_eq_ok_iff
    (members : List (String × Json.Value))
    (name : String)
    (field : Option String) :
    readField? members name = .ok field ↔
      (field = none ∧ NoMember members name)
        ∨ ∃ text, field = some text ∧ LastMember members name (.string text) := by
  rw [readField?, ← Json.member?_eq_none_iff]
  simp only [← Json.member?_eq_some_iff]
  cases Json.member? members name with
  | none => simp [eq_comm]
  | some value =>
      simp only [reduceCtorEq, and_false, false_or, Option.some.injEq, ← readText_eq_ok_iff]
      cases readText value <;> simp [eq_comm]

/-- The fields of an object that is read are all read; label and target are not
missing. -/
theorem ofMembers_eq_ok_iff (members : List (String × Json.Value)) (report : Report) :
    ofMembers members = .ok report ↔
      readField? members "label" = .ok (some report.label)
        ∧ readField? members "href" = .ok (some report.href)
        ∧ ∃ description, readField? members "description" = .ok description
          ∧ report.description = description.getD "" := by
  obtain ⟨label, href, text⟩ := report
  rw [ofMembers]
  cases readField? members "description" with
  | error fault => simp [bind, Except.bind]
  | ok description =>
      cases readField? members "href" with
      | error fault => simp [bind, Except.bind]
      | ok foundHref =>
          cases readField? members "label" with
          | error fault => simp [bind, Except.bind]
          | ok foundLabel =>
              cases foundLabel <;> cases foundHref
              all_goals simp [bind, Except.bind, pure, Except.pure, eq_comm]

theorem ofItems_pair_eq_ok_iff (label href : Json.Value) (report : Report) :
    ofItems [label, href] = .ok report ↔
      label = .string report.label ∧ href = .string report.href ∧ report.description = "" := by
  obtain ⟨foundLabel, foundHref, description⟩ := report
  rw [← readText_eq_ok_iff, ← readText_eq_ok_iff, ofItems]
  cases readText label <;> cases readText href
  all_goals simp [bind, Except.bind, pure, Except.pure, eq_comm]

theorem ofItems_triple_eq_ok_iff
    (label href description : Json.Value)
    (further : List Json.Value)
    (report : Report) :
    ofItems (label :: href :: description :: further) = .ok report ↔
      label = .string report.label ∧ href = .string report.href
        ∧ description = .string report.description ∧ further = [] := by
  obtain ⟨foundLabel, foundHref, foundDescription⟩ := report
  rw [← readText_eq_ok_iff, ← readText_eq_ok_iff, ← readText_eq_ok_iff, ofItems]
  cases readText label <;> cases readText href <;> cases readText description <;> cases further
  all_goals simp [bind, Except.bind, pure, Except.pure]

theorem ofItems_eq_ok_iff (items : List Json.Value) (report : Report) :
    ofItems items = .ok report ↔ Describes (.array items) report := by
  constructor
  · intro read
    match items with
    | [] => cases read
    | [label] =>
        rw [ofItems] at read
        cases found : readText label <;> simp [found, bind, Except.bind] at read
    | [label, href] =>
        obtain ⟨rfl, rfl, empty⟩ := (ofItems_pair_eq_ok_iff label href report).mp read
        have pair := Describes.pair report.label report.href
        rwa [← empty] at pair
    | label :: href :: description :: further =>
        obtain ⟨rfl, rfl, rfl, rfl⟩ :=
          (ofItems_triple_eq_ok_iff label href description further report).mp read
        exact .triple report.label report.href report.description
  · rintro (_ | _ | ⟨label, href⟩ | ⟨label, href, description⟩)
    · rfl
    · rfl

theorem ofMembers_eq_ok_iff_describes
    (members : List (String × Json.Value))
    (report : Report) :
    ofMembers members = .ok report ↔ Describes (.object members) report := by
  simp only [ofMembers_eq_ok_iff, readField?_eq_ok_iff]
  constructor
  · rintro ⟨label, href, description, hasDescription, same⟩
    simp only [reduceCtorEq, false_and, Option.some.injEq, exists_eq_left', false_or] at label href
    obtain ⟨foundLabel, foundHref, foundDescription⟩ := report
    rcases hasDescription with ⟨rfl, noDescription⟩ | ⟨text, rfl, hasText⟩
    · cases same
      exact .membersOnly label href noDescription
    · cases same
      exact .members label href hasText
  · intro describes
    cases describes with
    | members label href description =>
        exact ⟨.inr ⟨_, rfl, label⟩, .inr ⟨_, rfl, href⟩, _, .inr ⟨_, rfl, description⟩, rfl⟩
    | membersOnly label href noDescription =>
        exact ⟨.inr ⟨_, rfl, label⟩, .inr ⟨_, rfl, href⟩, _, .inl ⟨rfl, noDescription⟩, rfl⟩

/-- An entry is read exactly if it describes a report, and as that report. -/
theorem ofJson_eq_ok_iff (entry : Json.Value) (report : Report) :
    ofJson entry = .ok report ↔ Describes entry report := by
  cases entry with
  | object members => exact ofMembers_eq_ok_iff_describes members report
  | array items => exact ofItems_eq_ok_iff items report
  | _ => exact ⟨nofun, nofun⟩

/-- What is read as no report describes none. -/
theorem not_describes_of_ofJson_eq_error
    {entry : Json.Value}
    {fault : EntryFault}
    (faulty : ofJson entry = .error fault)
    (report : Report) :
    ¬Describes entry report := by
  rw [← ofJson_eq_ok_iff, faulty]
  exact nofun

end Report

/-! ## Documents -/

namespace Catalog

open Report (Describes)

/-- The entries that a document lists: it is a list of them, or an object with
such a list under `reports`. -/
inductive Lists : Json.Value → List Json.Value → Prop where
  | bare (entries : List Json.Value) : Lists (.array entries) entries
  | wrapped
      {members : List (String × Json.Value)}
      {entries : List Json.Value}
      (hasReports : LastMember members "reports" (.array entries)) :
      Lists (.object members) entries

/-- What becomes of a document. Its shape is looked at first, then all entries,
then all targets; of several faults of one kind, the first is reported. -/
inductive Decides (document : Json.Value) : Except Fault Catalog → Prop where
  | reportsNotList
      {members : List (String × Json.Value)}
      {value : Json.Value}
      (isObject : document = .object members)
      (hasReports : LastMember members "reports" value)
      (notList : ∀ entries, value ≠ .array entries) :
      Decides document (.error (.document .reportsNotList))
  | noReports
      (notList : ∀ entries, document ≠ .array entries)
      (noMember : ∀ members, document = .object members → NoMember members "reports") :
      Decides document (.error (.document .noReports))
  | undescribed
      {earlier later : List Json.Value}
      {entry : Json.Value}
      {fault : Report.EntryFault}
      (lists : Lists document (earlier ++ entry :: later))
      (described : ∀ other ∈ earlier, ∃ report, Describes other report)
      (undescribed : ∀ report, ¬Describes entry report)
      (faulty : Report.ofJson entry = .error fault) :
      Decides document (.error (.document (.entry earlier.length fault)))
  | blankHref
      {entries : List Json.Value}
      {earlier later : List Report}
      {report : Report}
      (lists : Lists document entries)
      (described : List.Forall₂ Describes entries (earlier ++ report :: later))
      (notBlank : ∀ other ∈ earlier, other.hasBlankHref = false)
      (blank : report.hasBlankHref = true) :
      Decides document (.error (.blankHref ⟨earlier.length⟩))
  | accepted
      {entries : List Json.Value}
      {catalog : Catalog}
      (lists : Lists document entries)
      (described : List.Forall₂ Describes entries catalog.reports) :
      Decides document (.ok catalog)

theorem entriesOf_eq_ok_iff (document : Json.Value) (entries : List Json.Value) :
    entriesOf document = .ok entries ↔ Lists document entries := by
  constructor
  · intro read
    cases document with
    | array items =>
        cases read
        exact .bare _
    | object members =>
        rw [entriesOf] at read
        split at read
        next found =>
          cases read
          exact .wrapped ((Json.member?_eq_some_iff _ _ _).mp found)
        next => cases read
        next => cases read
    | _ => cases read
  · rintro (_ | hasReports)
    · rfl
    · rw [entriesOf, (Json.member?_eq_some_iff _ _ _).mpr hasReports]

/-- A document that lists no entries is refused for its shape. -/
theorem decides_of_entriesOf_eq_error
    {document : Json.Value}
    {fault : DocumentFault}
    (refused : entriesOf document = .error fault) :
    Decides document (.error (.document fault)) := by
  cases document with
  | array items => cases refused
  | object members =>
      rw [entriesOf] at refused
      split at refused
      next => cases refused
      next value notList found =>
        cases refused
        exact .reportsNotList rfl ((Json.member?_eq_some_iff _ _ _).mp found) notList
      next missing =>
        cases refused
        refine .noReports nofun fun _ same => ?_
        cases same
        exact (Json.member?_eq_none_iff _ _).mp missing
  | _ =>
      cases refused
      exact .noReports nofun nofun

/-! ### Entries in order -/

theorem ofEntries_cons_of_described
    {entry : Json.Value}
    {report : Report}
    (describes : Describes entry report)
    (index : Nat)
    (entries : List Json.Value) :
    ofEntries index (entry :: entries) = (report :: ·) <$> ofEntries (index + 1) entries := by
  rw [ofEntries, (Report.ofJson_eq_ok_iff entry report).mpr describes]
  rfl

theorem ofEntries_eq_ok_iff (index : Nat) (entries : List Json.Value) (reports : List Report) :
    ofEntries index entries = .ok reports ↔ List.Forall₂ Describes entries reports := by
  induction entries generalizing index reports with
  | nil => simp [ofEntries, eq_comm]
  | cons entry entries inductionHypothesis =>
      rw [List.forall₂_cons_left_iff]
      cases found : Report.ofJson entry with
      | error fault =>
          simp [ofEntries, found, Report.not_describes_of_ofJson_eq_error found]
      | ok report =>
          have describes := (Report.ofJson_eq_ok_iff entry report).mp found
          rw [ofEntries_cons_of_described describes]
          simp only [← Report.ofJson_eq_ok_iff entry, found, ← inductionHypothesis (index + 1)]
          cases ofEntries (index + 1) entries <;> simp [eq_comm]

/-- The first entry that describes no report is the one that is reported. -/
theorem ofEntries_eq_error_iff
    (index : Nat)
    (entries : List Json.Value)
    (fault : DocumentFault) :
    ofEntries index entries = .error fault ↔
      ∃ earlier entry later entryFault,
        entries = earlier ++ entry :: later
          ∧ (∀ other ∈ earlier, ∃ report, Describes other report)
          ∧ Report.ofJson entry = .error entryFault
          ∧ fault = .entry (index + earlier.length) entryFault := by
  -- A faulty first entry is the one reported; a sound one is among the earlier ones.
  induction entries generalizing index with
  | nil => simp [ofEntries]
  | cons first entries inductionHypothesis =>
      cases found : Report.ofJson first with
      | error firstFault =>
          rw [ofEntries, found]
          constructor
          · rintro ⟨⟩
            exact ⟨[], first, entries, firstFault, rfl, by simp, found, rfl⟩
          · rintro ⟨earlier, entry, later, entryFault, split, described, faulty, rfl⟩
            cases earlier with
            | nil =>
                cases split
                cases found.symm.trans faulty
                rfl
            | cons other earlier =>
                obtain ⟨report, describes⟩ := described other (List.mem_cons_self)
                cases split
                exact absurd describes (Report.not_describes_of_ofJson_eq_error found report)
      | ok report =>
          have describes := (Report.ofJson_eq_ok_iff first report).mp found
          have passed : ofEntries index (first :: entries) = .error fault ↔
              ofEntries (index + 1) entries = .error fault := by
            rw [ofEntries_cons_of_described describes]
            cases ofEntries (index + 1) entries <;> simp
          rw [passed, inductionHypothesis]
          constructor
          · rintro ⟨earlier, entry, later, entryFault, rfl, described, faulty, rfl⟩
            refine ⟨first :: earlier, entry, later, entryFault, rfl, ?_, faulty, ?_⟩
            · exact List.forall_mem_cons.mpr ⟨⟨report, describes⟩, described⟩
            · rw [List.length_cons, Nat.add_right_comm, Nat.add_assoc]
          · rintro ⟨earlier, entry, later, entryFault, split, described, faulty, rfl⟩
            cases earlier with
            | nil =>
                cases split
                cases found.symm.trans faulty
            | cons other earlier =>
                cases split
                refine ⟨earlier, entry, later, entryFault, rfl,
                  (List.forall_mem_cons.mp described).2, faulty, ?_⟩
                rw [List.length_cons, Nat.add_right_comm, Nat.add_assoc]

/-! ### Targets -/

theorem findIdx?_hasBlankHref_eq_some_iff (reports : List Report) (index : Nat) :
    reports.findIdx? Report.hasBlankHref = some index ↔
      ∃ earlier report later,
        reports = earlier ++ report :: later
          ∧ (∀ other ∈ earlier, other.hasBlankHref = false)
          ∧ report.hasBlankHref = true
          ∧ earlier.length = index := by
  rw [List.findIdx?_eq_some_iff_getElem]
  constructor
  · rintro ⟨inside, blank, notBlank⟩
    refine ⟨reports.take index, reports[index], reports.drop (index + 1), ?_, ?_, blank, ?_⟩
    · rw [← List.drop_eq_getElem_cons inside, List.take_append_drop]
    · intro other member
      obtain ⟨position, before, rfl⟩ := List.mem_take_iff_getElem.mp member
      simpa using notBlank position (Nat.lt_of_lt_of_le before (Nat.min_le_left _ _))
    · rw [List.length_take, Nat.min_eq_left (Nat.le_of_lt inside)]
  · rintro ⟨earlier, report, later, rfl, notBlank, blank, rfl⟩
    refine ⟨by simp, by simpa using blank, fun position before => ?_⟩
    rw [List.getElem_append_left before]
    simp [notBlank _ (List.getElem_mem before)]

theorem ofReports_eq_ok_iff (reports : List Report) (catalog : Catalog) :
    ofReports reports = .ok catalog ↔ catalog.reports = reports := by
  rw [ofReports]
  split
  next index found =>
    obtain ⟨earlier, report, later, rfl, _, blank, _⟩ :=
      (findIdx?_hasBlankHref_eq_some_iff reports index).mp found
    refine ⟨nofun, fun same => ?_⟩
    have notBlank := catalog.href_not_blank report (by simp [same])
    rw [blank] at notBlank
    cases notBlank
  next =>
    constructor
    · rintro ⟨⟩
      rfl
    · rintro rfl
      rfl

theorem ofReports_eq_error_iff (reports : List Report) (error : BlankHref) :
    ofReports reports = .error error ↔
      ∃ earlier report later,
        reports = earlier ++ report :: later
          ∧ (∀ other ∈ earlier, other.hasBlankHref = false)
          ∧ report.hasBlankHref = true
          ∧ error = ⟨earlier.length⟩ := by
  obtain ⟨index⟩ := error
  have isFirst : ofReports reports = .error ⟨index⟩ ↔
      reports.findIdx? Report.hasBlankHref = some index := by
    rw [ofReports]
    split
    next other found => simp [found]
    next found => simp [found]
  rw [isFirst, findIdx?_hasBlankHref_eq_some_iff]
  simp only [BlankHref.mk.injEq, eq_comm]

/-! ### The decision -/

theorem decides_ofValue (document : Json.Value) : Decides document (ofValue document) := by
  rw [ofValue, reportsOf]
  cases shape : entriesOf document with
  | error fault => exact decides_of_entriesOf_eq_error shape
  | ok entries =>
      have lists := (entriesOf_eq_ok_iff document entries).mp shape
      cases read : ofEntries 0 entries with
      | error fault =>
          obtain ⟨earlier, entry, later, entryFault, rfl, described, faulty, rfl⟩ :=
            (ofEntries_eq_error_iff 0 entries fault).mp read
          simp only [bind, Except.bind, read]
          rw [Nat.zero_add]
          exact .undescribed lists described (Report.not_describes_of_ofJson_eq_error faulty) faulty
      | ok reports =>
          have described := (ofEntries_eq_ok_iff 0 entries reports).mp read
          simp only [bind, Except.bind, read]
          cases checked : ofReports reports with
          | error error =>
              obtain ⟨earlier, report, later, rfl, notBlank, blank, rfl⟩ :=
                (ofReports_eq_error_iff reports error).mp checked
              exact .blankHref lists described notBlank blank
          | ok catalog =>
              rw [← (ofReports_eq_ok_iff reports catalog).mp checked] at described
              exact .accepted lists described

/-- A document is decided in one way only. -/
theorem ofValue_of_decides
    {document : Json.Value}
    {result : Except Fault Catalog}
    (decides : Decides document result) :
    ofValue document = result := by
  rw [ofValue, reportsOf]
  cases decides with
  | reportsNotList isObject hasReports notList =>
      have found := (Json.member?_eq_some_iff _ _ _).mpr hasReports
      have shape : entriesOf document = .error .reportsNotList := by
        rw [isObject, entriesOf, found]
        split
        next entries isList => exact absurd (Option.some.inj isList) (notList entries)
        next => rfl
        next missing => cases missing
      rw [shape]
      rfl
  | noReports notList noMember =>
      have shape : entriesOf document = .error .noReports := by
        cases document with
        | array entries => exact absurd rfl (notList entries)
        | object members =>
            rw [entriesOf, (Json.member?_eq_none_iff _ _).mpr (noMember members rfl)]
        | _ => rfl
      rw [shape]
      rfl
  | @undescribed earlier later entry fault lists described undescribed faulty =>
      have read := (ofEntries_eq_error_iff 0 _ _).mpr
        ⟨earlier, entry, later, fault, rfl, described, faulty, rfl⟩
      rw [Nat.zero_add] at read
      rw [(entriesOf_eq_ok_iff document _).mpr lists]
      simp only [bind, Except.bind, read]
  | @blankHref entries earlier later report lists described notBlank blank =>
      have read := (ofEntries_eq_ok_iff 0 entries _).mpr described
      have checked := (ofReports_eq_error_iff _ _).mpr
        ⟨earlier, report, later, rfl, notBlank, blank, rfl⟩
      rw [(entriesOf_eq_ok_iff document _).mpr lists]
      simp only [bind, Except.bind, read, checked, Except.mapError]
  | @accepted entries catalog lists described =>
      have read := (ofEntries_eq_ok_iff 0 entries _).mpr described
      have checked := (ofReports_eq_ok_iff _ catalog).mpr rfl
      rw [(entriesOf_eq_ok_iff document _).mpr lists]
      simp only [bind, Except.bind, read, checked, Except.mapError]

theorem ofValue_eq_iff (document : Json.Value) (result : Except Fault Catalog) :
    ofValue document = result ↔ Decides document result :=
  ⟨fun same => same ▸ decides_ofValue document, ofValue_of_decides⟩

end Catalog

end ReportIndex
