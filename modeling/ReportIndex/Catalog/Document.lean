import ReportIndex.Catalog.Basic
import ReportIndex.Json.Printer
import ReportIndex.Json.Reader
import ReportIndex.Text.Quoted

/-!
Contract: the JSON documents that hold a catalog.

Owns:
- the shape of a document: a list of entries, or an object with such a list
  under `reports`;
- the shape of an entry: an object with named fields, or a list of the fields
  in order;
- the order in which faults are found: all entries are read before any target
  is looked at, and the first entry with a fault is the one reported.

Does not own: the syntax of JSON, and the rule on blank targets.
-/

namespace ReportIndex

namespace Report

inductive Expected where
  | text
  | entry
deriving DecidableEq, Repr

def Expected.words : Expected → String
  | .text => "a string"
  | .entry => "struct ReportDescriptor"

inductive EntryFault where
  | wrongType (found : Json.Value) (expected : Expected)
  | missingField (name : String)
  | tooShort (length : Nat)
  | tooLong (length : Nat)
deriving Repr

/-- The words for a value that stands where another kind is expected. -/
def foundWords : Json.Value → String
  | .null => "null"
  | .boolean true => "boolean `true`"
  | .boolean false => "boolean `false`"
  | .number (.real value) => "floating point `" ++ Decimal.standardLayout.text value ++ "`"
  | .number whole => "integer `" ++ String.ofList (Json.printNumber whole) ++ "`"
  | .string value => "string " ++ Text.quote value
  | .array _ => "sequence"
  | .object _ => "map"

def EntryFault.message : EntryFault → String
  | .wrongType found expected =>
      "invalid type: " ++ foundWords found ++ ", expected " ++ expected.words
  | .missingField name => "missing field `" ++ name ++ "`"
  | .tooShort length =>
      "invalid length " ++ toString length ++ ", expected struct ReportDescriptor with 3 elements"
  | .tooLong length =>
      "invalid length " ++ toString length ++ ", expected fewer elements in array"

def readText : Json.Value → Except EntryFault String
  | .string value => .ok value
  | other => .error (.wrongType other .text)

/-- The text of a field that may be absent. -/
def readField?
    (members : List (String × Json.Value))
    (name : String) :
    Except EntryFault (Option String) :=
  match Json.member? members name with
  | none => .ok none
  | some value => some <$> readText value

/-- The report of an object. Its fields are looked at in the order of their
names; only then is one missed. -/
def ofMembers (members : List (String × Json.Value)) : Except EntryFault Report := do
  let description ← readField? members "description"
  let href ← readField? members "href"
  let label ← readField? members "label"
  match label, href with
  | none, _ => .error (.missingField "label")
  | some _, none => .error (.missingField "href")
  | some label, some href => return ⟨label, href, description.getD ""⟩

/-- The report of a list: label, target and perhaps a description. -/
def ofItems (items : List Json.Value) : Except EntryFault Report :=
  match items with
  | [] => .error (.tooShort 0)
  | [label] => do
      let _ ← readText label
      .error (.tooShort 1)
  | [label, href] => return ⟨← readText label, ← readText href, ""⟩
  | label :: href :: description :: further => do
      let report : Report := ⟨← readText label, ← readText href, ← readText description⟩
      if further.isEmpty then return report
      else .error (.tooLong items.length)

def ofJson : Json.Value → Except EntryFault Report
  | .object members => ofMembers members
  | .array items => ofItems items
  | other => .error (.wrongType other .entry)

end Report

namespace Catalog

inductive DocumentFault where
  | syntaxError (error : Json.SyntaxError)
  | reportsNotList
  | noReports
  | entry (index : Nat) (fault : Report.EntryFault)
deriving Repr

def DocumentFault.message : DocumentFault → String
  | .syntaxError error => error.message
  | .reportsNotList => "`reports` must be an array"
  | .noReports => "expected an array or a `reports` field"
  | .entry index fault => "report at index " ++ toString index ++ ": " ++ fault.message

inductive Fault where
  | document (fault : DocumentFault)
  | blankHref (error : BlankHref)
deriving Repr

def Fault.message : Fault → String
  | .document fault => "malformed catalog JSON: " ++ fault.message
  | .blankHref error => error.message

def entriesOf : Json.Value → Except DocumentFault (List Json.Value)
  | .array entries => .ok entries
  | .object members =>
      match Json.member? members "reports" with
      | some (.array entries) => .ok entries
      | some _ => .error .reportsNotList
      | none => .error .noReports
  | _ => .error .noReports

/-- The reports of the entries, the first of which has number `index`. -/
def ofEntries (index : Nat) : List Json.Value → Except DocumentFault (List Report)
  | [] => .ok []
  | entry :: entries =>
      match Report.ofJson entry with
      | .error fault => .error (.entry index fault)
      | .ok report => do
          let reports ← ofEntries (index + 1) entries
          return report :: reports

/-- The reports of a document, whatever their targets. -/
def reportsOf (document : Json.Value) : Except DocumentFault (List Report) := do
  ofEntries 0 (← entriesOf document)

def ofValue (document : Json.Value) : Except Fault Catalog :=
  match reportsOf document with
  | .error fault => .error (.document fault)
  | .ok reports => (ofReports reports).mapError .blankHref

def ofJson (text : String) : Except Fault Catalog :=
  match Json.parse text with
  | .error error => .error (.document (.syntaxError error))
  | .ok document => ofValue document

end Catalog

end ReportIndex
