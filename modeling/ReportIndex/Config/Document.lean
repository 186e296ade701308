import ReportIndex.Config.Basic
import ReportIndex.Toml.Number
import ReportIndex.Toml.Reader

/-!
Contract: the TOML documents that hold settings.

Owns:
- the fields of a document, each of which may be missing and then has its
  default;
- what each field accepts; one that does not accept its value makes the whole
  document useless.

Does not own: the syntax of TOML, and what is used in place of a useless
document.

Keys that name no field are passed over. Their values may be anything in which
every number has a value within bounds.
-/

namespace ReportIndex

namespace Config

inductive DocumentFault where
  | notToml
  | wrongValue (field : String)
  | invalidNumber (key : String)
deriving DecidableEq, Repr

def DocumentFault.message : DocumentFault → String
  | .notToml => "not a TOML document"
  | .wrongValue field => "invalid value for `" ++ field ++ "`"
  | .invalidNumber key => "invalid number in `" ++ key ++ "`"

def text? : Toml.Value → Option String
  | .string value => some value
  | _ => none

/-- The texts of an array that holds nothing else. -/
def texts? : Toml.Value → Option (List String)
  | .array items => items.mapM text?
  | _ => none

/-- A word of a short list: a text, or a table whose only key is the word, with
nothing in it. -/
def word? : Toml.Value → Option String
  | .string word => some word
  | .table [(word, .table [])] => some word
  | .table [(word, .array [])] => some word
  | _ => none

def encoding? (value : Toml.Value) : Option LinkEncoding :=
  (word? value).bind LinkEncoding.ofName?

def theme? (value : Toml.Value) : Option Theme :=
  (word? value).bind Theme.ofName?

/-- What a field holds: its default if it is missing. -/
def field
    {α : Type}
    (entries : Toml.Table)
    (name : String)
    (read? : Toml.Value → Option α)
    (fallback : α) :
    Except DocumentFault α :=
  match entries.lookup name with
  | none => .ok fallback
  | some value =>
      match read? value with
      | some found => .ok found
      | none => .error (.wrongValue name)

/-- Passes over the keys that name none of the fields. -/
def passOver (entries : Toml.Table) (fields : List String) : Except DocumentFault Unit :=
  match entries.find? fun entry => !fields.contains entry.1 && !entry.2.isBounded with
  | none => .ok ()
  | some entry => .error (.invalidNumber entry.1)

/-- The fields of the link settings, in their order. -/
def linkFields : List String := ["strategy", "param"]

def linkOfTable (entries : Toml.Table) : Except DocumentFault LinkConfig := do
  let defaults : LinkConfig := {}
  passOver entries linkFields
  let encoding ← field entries "strategy" encoding? defaults.encoding
  let parameter ← field entries "param" text? defaults.parameter
  return { encoding, parameter }

/-- The link settings of an array, which gives the fields in their order. Items
behind the last field are not looked at. -/
def linkOfItems (items : List Toml.Value) : Except DocumentFault LinkConfig :=
  linkOfTable (linkFields.zip items)

/-- The link settings of a value. A time is taken for a table that has none of
the fields. -/
def link? (value : Toml.Value) : Option LinkConfig :=
  match value with
  | .table entries => (linkOfTable entries).toOption
  | .array items => (linkOfItems items).toOption
  | .time _ => some {}
  | _ => none

/-- The fields of the settings. -/
def fields : List String := ["title", "asset_base", "theme", "versions", "link"]

def ofTable (entries : Toml.Table) : Except DocumentFault Config := do
  let defaults : Config := {}
  passOver entries fields
  let title ← field entries "title" text? defaults.title
  let assetBase ← field entries "asset_base" text? defaults.assetBase
  let theme ← field entries "theme" theme? defaults.theme
  let versions ← field entries "versions" texts? defaults.versions
  let link ← field entries "link" link? defaults.link
  return { title, assetBase, theme, versions, link }

def ofToml (document : String) : Except DocumentFault Config :=
  match Toml.parse? document with
  | none => .error .notToml
  | some entries => ofTable entries

end Config

end ReportIndex
