import ReportIndex.Config.Document
import ReportIndex.Proofs.Result
import ReportIndex.Proofs.Theme
import ReportIndex.Proofs.Toml.Table

/-!
Contract: what one key of a document of settings means for the settings.

Owns:
- the fields of a table, one by one and without a key;
- what a table loads as, and what a table of link settings does;
- the settings of a table in which the theme, or the strategy of links, is set anew.

Does not own: the text of a document.
-/

namespace ReportIndex

namespace Config

open Toml (Sets)

/-! ## Fields -/

section

variable {α : Type} {entries other : Toml.Table} {name : String}
  {read? : Toml.Value → Option α} {fallback found : α}

theorem passOver_eq_ok (entries : Toml.Table) (fields : List String) :
    passOver entries fields = .ok () ↔
      ∀ entry ∈ entries, entry.1 ∈ fields ∨ entry.2.isBounded = true := by
  have bounds := @List.find?_eq_none _
    (fun entry : String × Toml.Value => !fields.contains entry.1 && !entry.2.isBounded) entries
  rw [passOver]
  split
  next found => simpa [or_iff_not_imp_left] using bounds.mp found
  next entry found =>
    rw [found] at bounds
    simpa [or_iff_not_imp_left] using bounds

theorem field_congr (same : other.lookup name = entries.lookup name) :
    field other name read? fallback = field entries name read? fallback := by
  rw [field, field, same]

theorem field_of_lookup
    {value : Toml.Value}
    (found : entries.lookup name = some value) :
    field entries name read? fallback =
      match read? value with
      | some read => .ok read
      | none => .error (.wrongValue name) := by
  cases read : read? value <;> simp [field, found, read]

theorem read_of_field
    {value : Toml.Value}
    (holds : field entries name read? fallback = .ok found)
    (present : entries.lookup name = some value) :
    read? value = some found := by
  rw [field_of_lookup present] at holds
  cases outcome : read? value with
  | none =>
      rw [outcome] at holds
      cases holds
  | some other =>
      rw [outcome] at holds
      cases holds
      rfl

theorem eq_fallback_of_field
    (holds : field entries name read? fallback = .ok found)
    (missing : entries.lookup name = none) :
    found = fallback := by
  rw [field, missing] at holds
  cases holds
  rfl

theorem exists_field
    (readable : ∀ value, entries.lookup name = some value → ∃ found, read? value = some found) :
    ∃ found, field entries name read? fallback = .ok found := by
  cases present : entries.lookup name with
  | none => exact ⟨fallback, by rw [field, present]⟩
  | some value =>
      obtain ⟨found, read⟩ := readable value present
      exact ⟨found, by rw [field_of_lookup present, read]⟩

theorem field_without (key : String) :
    field (entries.without key) name read? fallback =
      if name = key then .ok fallback else field entries name read? fallback := by
  split
  next same =>
    subst same
    rw [field, Toml.Table.lookup_without_self]
  next different => exact field_congr (Toml.Table.lookup_without_of_ne entries key different)

theorem passOver_without
    {fields : List String}
    (passes : passOver entries fields = .ok ())
    (key : String) :
    passOver (entries.without key) fields = .ok () := by
  rw [passOver_eq_ok] at passes ⊢
  intro entry member
  exact passes entry ((Toml.Table.mem_without entries key entry).mp member).1

/-- Entries that were passed over, and bounded ones at a further key, are passed over. -/
theorem passOver_of_without_eq
    {fields : List String}
    {key : String}
    (passes : passOver entries fields = .ok ())
    (same : other.without key = entries.without key)
    (allowed : key ∈ fields ∨ ∀ value, (key, value) ∈ other → value.isBounded = true) :
    passOver other fields = .ok () := by
  rw [passOver_eq_ok] at passes ⊢
  rintro ⟨name, value⟩ member
  by_cases here : name = key
  · subst here
    exact allowed.imp id fun bounded => bounded value member
  · have elsewhere := (Toml.Table.mem_without other key (name, value)).mpr ⟨member, here⟩
    rw [same] at elsewhere
    exact passes (name, value) ((Toml.Table.mem_without entries key _).mp elsewhere).1

end

/-! ## Whole tables -/

/-- What a table that loads has in its fields. -/
structure Loads (entries : Toml.Table) (config : Config) : Prop where
  passOver : passOver entries fields = .ok ()
  title : field entries "title" text? ({} : Config).title = .ok config.title
  assetBase : field entries "asset_base" text? ({} : Config).assetBase = .ok config.assetBase
  theme : field entries "theme" theme? ({} : Config).theme = .ok config.theme
  versions : field entries "versions" texts? ({} : Config).versions = .ok config.versions
  link : field entries "link" link? ({} : Config).link = .ok config.link

theorem Loads.of_ofTable
    {entries : Toml.Table}
    {config : Config}
    (loads : ofTable entries = .ok config) :
    Loads entries config := by
  rw [ofTable] at loads
  simp only [bind_eq_ok] at loads
  obtain ⟨_, passOver, _, title, _, assetBase, _, theme, _, versions, _, link, same⟩ := loads
  cases same
  exact ⟨passOver, title, assetBase, theme, versions, link⟩

theorem Loads.ofTable
    {entries : Toml.Table}
    {config : Config}
    (loads : Loads entries config) :
    Config.ofTable entries = .ok config := by
  rw [Config.ofTable]
  simp only [bind_eq_ok]
  exact ⟨_, loads.passOver, _, loads.title, _, loads.assetBase, _, loads.theme, _, loads.versions,
    _, loads.link, rfl⟩

/-- What a table of link settings that loads has in its fields. -/
structure LoadsLink (entries : Toml.Table) (link : LinkConfig) : Prop where
  passOver : passOver entries linkFields = .ok ()
  encoding : field entries "strategy" encoding? ({} : LinkConfig).encoding = .ok link.encoding
  parameter : field entries "param" text? ({} : LinkConfig).parameter = .ok link.parameter

theorem LoadsLink.of_linkOfTable
    {entries : Toml.Table}
    {link : LinkConfig}
    (loads : linkOfTable entries = .ok link) :
    LoadsLink entries link := by
  rw [linkOfTable] at loads
  simp only [bind_eq_ok] at loads
  obtain ⟨_, passOver, _, encoding, _, parameter, same⟩ := loads
  cases same
  exact ⟨passOver, encoding, parameter⟩

theorem LoadsLink.linkOfTable
    {entries : Toml.Table}
    {link : LinkConfig}
    (loads : LoadsLink entries link) :
    Config.linkOfTable entries = .ok link := by
  rw [Config.linkOfTable]
  simp only [bind_eq_ok]
  exact ⟨_, loads.passOver, _, loads.encoding, _, loads.parameter, rfl⟩

section

variable {entries other : Toml.Table} {config : Config} {value : Toml.Value}
  (loads : Loads entries config)

include loads

theorem ofTable_of_sets_theme (sets : Sets "theme" value entries other) :
    ofTable other =
      match theme? value with
      | some theme => .ok { config with theme }
      | none => .error (.wrongValue "theme") := by
  have passes := passOver_of_without_eq loads.passOver sets.without_eq (.inl (by decide))
  have title := (field_congr (sets.lookup_of_ne (by decide))).trans loads.title
  have assetBase := (field_congr (sets.lookup_of_ne (by decide))).trans loads.assetBase
  have versions := (field_congr (sets.lookup_of_ne (by decide))).trans loads.versions
  have link := (field_congr (sets.lookup_of_ne (by decide))).trans loads.link
  simp only [ofTable, passes, title, assetBase, field_of_lookup sets.lookup_self, versions, link,
    bind, Except.bind, pure, Except.pure]
  cases theme? value <;> rfl

theorem ofTable_of_sets_link (sets : Sets "link" value entries other) :
    ofTable other =
      match link? value with
      | some link => .ok { config with link }
      | none => .error (.wrongValue "link") := by
  have passes := passOver_of_without_eq loads.passOver sets.without_eq (.inl (by decide))
  have title := (field_congr (sets.lookup_of_ne (by decide))).trans loads.title
  have assetBase := (field_congr (sets.lookup_of_ne (by decide))).trans loads.assetBase
  have theme := (field_congr (sets.lookup_of_ne (by decide))).trans loads.theme
  have versions := (field_congr (sets.lookup_of_ne (by decide))).trans loads.versions
  simp only [ofTable, passes, title, assetBase, theme, versions,
    field_of_lookup sets.lookup_self, bind, Except.bind, pure, Except.pure]
  cases link? value <;> rfl

end

theorem linkOfTable_of_sets_strategy
    {entries other : Toml.Table}
    {link : LinkConfig}
    {value : Toml.Value}
    (loads : linkOfTable entries = .ok link)
    (sets : Sets "strategy" value entries other) :
    linkOfTable other =
      match encoding? value with
      | some encoding => .ok { link with encoding }
      | none => .error (.wrongValue "strategy") := by
  have fields := LoadsLink.of_linkOfTable loads
  have passes := passOver_of_without_eq fields.passOver sets.without_eq (.inl (by decide))
  have parameter := (field_congr (sets.lookup_of_ne (by decide))).trans fields.parameter
  simp only [linkOfTable, passes, field_of_lookup sets.lookup_self, parameter,
    bind, Except.bind, pure, Except.pure]
  cases encoding? value <;> rfl

/-- The second table has a word for the strategy of links, in a table of link settings
that is otherwise the one of the first table, or new. -/
structure SetsStrategy (word : String) (entries other : Toml.Table) : Prop where
  nested :
    ∃ link changed,
      (entries.lookup "link" = some (.table link) ∨ (entries.lookup "link" = none ∧ link = []))
        ∧ Sets "strategy" (.string word) link changed
        ∧ Sets "link" (.table changed) entries other

/-- The link settings of a table that loads. -/
theorem Loads.linkOfTable
    {entries link : Toml.Table}
    {config : Config}
    (loads : Loads entries config)
    (found :
      entries.lookup "link" = some (.table link) ∨ (entries.lookup "link" = none ∧ link = [])) :
    linkOfTable link = .ok config.link := by
  have field := loads.link
  rcases found with present | ⟨missing, rfl⟩
  · rw [field_of_lookup present, link?] at field
    cases outcome : Config.linkOfTable link with
    | error fault =>
        rw [outcome] at field
        cases field
    | ok settings =>
        rw [outcome] at field
        exact field
  · rw [Config.field, missing] at field
    exact field

theorem ofTable_of_setsStrategy
    {entries other : Toml.Table}
    {config : Config}
    {word : String}
    (loads : Loads entries config)
    (sets : SetsStrategy word entries other) :
    ofTable other =
      match LinkEncoding.ofName? word with
      | some encoding => .ok { config with link := { config.link with encoding } }
      | none => .error (.wrongValue "link") := by
  obtain ⟨link, changed, found, setsStrategy, setsLink⟩ := sets.nested
  have read : encoding? (.string word) = LinkEncoding.ofName? word := rfl
  rw [ofTable_of_sets_link loads setsLink, link?,
    linkOfTable_of_sets_strategy (loads.linkOfTable found) setsStrategy, read]
  cases LinkEncoding.ofName? word <;> rfl

end Config

end ReportIndex
