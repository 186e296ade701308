import ReportIndex.Config.Document
import ReportIndex.Proofs.Toml.Table

/-!
Contract: the places of a document of settings.

Owns:
- the places at which settings and other entries stand;
- tables without the entry at a place, and tables that differ only there;
- what a value says for a setting, and settings with the default for one;
- the faults that a document can have.

Does not own: what a document loads as.
-/

namespace ReportIndex

namespace Config

/-! ## Places and settings -/

/-- Where an entry stands: at a key of the document, or at a key of its table for links. -/
inductive Place where
  | top (key : String)
  | link (key : String)
deriving DecidableEq

/-- The table for links, which is empty if it is missing; none if something else is there. -/
def linkTable? (entries : Toml.Table) : Option Toml.Table :=
  match entries.lookup "link" with
  | none => some []
  | some (.table inner) => some inner
  | some _ => none

namespace Place

/-- The value at a place. -/
def value? (entries : Toml.Table) : Place → Option Toml.Value
  | .top key => entries.lookup key
  | .link key => (linkTable? entries).bind fun inner => inner.lookup key

/-- Nothing stands at a place, and an entry could. -/
def IsFree (entries : Toml.Table) : Place → Prop
  | .top key => entries.lookup key = none
  | .link key => ∃ inner, linkTable? entries = some inner ∧ inner.lookup key = none

/-- Every number at a place has a value within bounds. -/
def IsBounded (entries : Toml.Table) : Place → Prop
  | .top key => ∀ value, (key, value) ∈ entries → value.isBounded = true
  | .link key =>
      ∀ inner, linkTable? entries = some inner →
        ∀ value, (key, value) ∈ inner → value.isBounded = true

/-- A table without the entry at a place. -/
def clear (entries : Toml.Table) : Place → Toml.Table
  | .top key => entries.without key
  | .link key =>
      match entries.lookup "link" with
      | some (.table inner) => entries.replace "link" (.table (Toml.Table.without inner key))
      | _ => entries

/-- Two tables have the same entries, but perhaps at a place. -/
def SameElsewhere (entries other : Toml.Table) : Place → Prop
  | .top key => other.without key = entries.without key
  | .link key =>
      other.without "link" = entries.without "link"
        ∧ ∃ inner changed, linkTable? entries = some inner ∧ linkTable? other = some changed
            ∧ changed.without key = inner.without key

end Place

/-- The settings that a document can hold an entry for. -/
inductive Setting where
  | title
  | assetBase
  | theme
  | versions
  | link
  | encoding
  | parameter
deriving DecidableEq

namespace Setting

def place : Setting → Place
  | .title => .top "title"
  | .assetBase => .top "asset_base"
  | .theme => .top "theme"
  | .versions => .top "versions"
  | .link => .top "link"
  | .encoding => .link "strategy"
  | .parameter => .link "param"

/-- A value is taken for a setting, and gives the setting that a configuration has. -/
def Reads (value : Toml.Value) (config : Config) : Setting → Prop
  | .title => text? value = some config.title
  | .assetBase => text? value = some config.assetBase
  | .theme => theme? value = some config.theme
  | .versions => texts? value = some config.versions
  | .link => link? value = some config.link
  | .encoding => encoding? value = some config.link.encoding
  | .parameter => text? value = some config.link.parameter

/-- A configuration with the default in place of a setting. -/
def reset (config : Config) : Setting → Config
  | .title => { config with title := ({} : Config).title }
  | .assetBase => { config with assetBase := ({} : Config).assetBase }
  | .theme => { config with theme := ({} : Config).theme }
  | .versions => { config with versions := ({} : Config).versions }
  | .link => { config with link := ({} : Config).link }
  | .encoding =>
      { config with link := { config.link with encoding := ({} : LinkConfig).encoding } }
  | .parameter =>
      { config with link := { config.link with parameter := ({} : LinkConfig).parameter } }

end Setting

/-- No setting stands at a place. -/
def Place.IsOther (place : Place) : Prop :=
  ∀ setting : Setting, setting.place ≠ place

theorem Place.isOther_top (key : String) : (Place.top key).IsOther ↔ key ∉ fields := by
  constructor
  · intro other member
    simp only [fields, List.mem_cons, List.not_mem_nil, or_false] at member
    rcases member with rfl | rfl | rfl | rfl | rfl
    · exact other .title rfl
    · exact other .assetBase rfl
    · exact other .theme rfl
    · exact other .versions rfl
    · exact other .link rfl
  · intro unknown setting
    cases setting <;> simp_all [fields, Setting.place, eq_comm]

theorem Place.isOther_link (key : String) : (Place.link key).IsOther ↔ key ∉ linkFields := by
  constructor
  · intro other member
    simp only [linkFields, List.mem_cons, List.not_mem_nil, or_false] at member
    rcases member with rfl | rfl
    · exact other .encoding rfl
    · exact other .parameter rfl
  · intro unknown setting
    cases setting <;> simp_all [linkFields, Setting.place, eq_comm]

/-- What makes a table useless as a document of settings. -/
inductive Faulty (entries : Toml.Table) : Prop where
  /-- A setting is there with a value that is not one for it. -/
  | value
      {setting : Setting}
      {value : Toml.Value}
      (present : setting.place.value? entries = some value)
      (unread : ∀ config, ¬setting.Reads value config)
  /-- A number in some other entry has no value within bounds. -/
  | number
      {place : Place}
      (other : place.IsOther)
      (unbounded : ¬place.IsBounded entries)

theorem linkTable?_eq_some (entries inner : Toml.Table) :
    linkTable? entries = some inner ↔
      entries.lookup "link" = some (.table inner)
        ∨ (entries.lookup "link" = none ∧ inner = []) := by
  rw [linkTable?]
  cases entries.lookup "link" with
  | none => simp [eq_comm]
  | some value => cases value <;> simp

/-! ## Clearing a place -/

theorem linkTable?_replace
    {entries inner : Toml.Table}
    (present : entries.lookup "link" = some (.table inner))
    (changed : Toml.Table) :
    linkTable? (entries.replace "link" (.table changed)) = some changed :=
  (linkTable?_eq_some _ changed).mpr
    (.inl (Toml.Table.lookup_replace_self entries "link" (.table changed) present))

theorem Place.clear_link
    {entries inner : Toml.Table}
    (present : entries.lookup "link" = some (.table inner))
    (key : String) :
    (Place.link key).clear entries =
      entries.replace "link" (.table (Toml.Table.without inner key)) := by
  rw [clear, present]

/-- Clearing a place changes nothing elsewhere, unless there cannot be an entry at it. -/
theorem Place.sameElsewhere_clear (place : Place) (entries : Toml.Table) :
    place.clear entries = entries ∨ place.SameElsewhere entries (place.clear entries) := by
  cases place with
  | top key =>
      right
      simp [SameElsewhere, clear, Toml.Table.without]
  | link key =>
      rw [clear]
      split
      next inner present =>
        exact .inr ⟨Toml.Table.without_replace entries "link" _, inner,
          Toml.Table.without inner key, (linkTable?_eq_some entries inner).mpr (.inl present),
          linkTable?_replace present _, by simp [Toml.Table.without]⟩
      next => exact .inl rfl

theorem Place.isBounded_clear
    {place : Place}
    {entries : Toml.Table}
    (bounded : place.IsBounded entries) :
    place.IsBounded (place.clear entries) := by
  cases place with
  | top key =>
      intro value member
      exact bounded value ((Toml.Table.mem_without entries key _).mp member).1
  | link key =>
      rw [clear]
      split
      next inner present =>
        intro changed found value member
        rw [linkTable?_replace present] at found
        cases found
        have earlier := (linkTable?_eq_some entries inner).mpr (.inl present)
        exact bounded inner earlier value ((Toml.Table.mem_without inner key _).mp member).1
      next => exact bounded

end Config

end ReportIndex
