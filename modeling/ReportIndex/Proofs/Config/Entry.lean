import ReportIndex.Proofs.Config.Place
import ReportIndex.Proofs.Config.Table

/-!
Contract: a document of settings, entry by entry.

Owns:
- a table loads exactly if it has no fault, and then each setting is what its entry says;
- what a table loads as without an entry, and with another one at a place of no setting.

Does not own: the text of a document, and the file that holds it.
-/

namespace ReportIndex

namespace Config

/-! ## The table for links -/

/-- The table for links of a table that loads has the settings for links in its fields. -/
theorem Loads.loadsLink
    {entries inner : Toml.Table}
    {config : Config}
    (loads : Loads entries config)
    (found : linkTable? entries = some inner) :
    LoadsLink inner config.link :=
  .of_linkOfTable (loads.linkOfTable ((linkTable?_eq_some entries inner).mp found))

/-- Settings for links are those of the table for them. -/
theorem field_link_of_loadsLink
    {entries inner : Toml.Table}
    {link : LinkConfig}
    (found : linkTable? entries = some inner)
    (loads : LoadsLink inner link) :
    field entries "link" link? ({} : Config).link = .ok link := by
  rcases (linkTable?_eq_some entries inner).mp found with present | ⟨missing, rfl⟩
  · rw [field_of_lookup present, link?, loads.linkOfTable]
    rfl
  · have outcome := loads.linkOfTable
    cases outcome
    rw [field, missing]

/-! ## What a table that loads says -/

section

variable {entries : Toml.Table} {config : Config} (loads : Loads entries config)

include loads

theorem Loads.reads
    {setting : Setting}
    {value : Toml.Value}
    (present : setting.place.value? entries = some value) :
    setting.Reads value config := by
  cases setting with
  | title => exact read_of_field loads.title present
  | assetBase => exact read_of_field loads.assetBase present
  | theme => exact read_of_field loads.theme present
  | versions => exact read_of_field loads.versions present
  | link => exact read_of_field loads.link present
  | encoding =>
      obtain ⟨inner, found, present⟩ := Option.bind_eq_some_iff.mp present
      exact read_of_field (loads.loadsLink found).encoding present
  | parameter =>
      obtain ⟨inner, found, present⟩ := Option.bind_eq_some_iff.mp present
      exact read_of_field (loads.loadsLink found).parameter present

theorem Loads.reset_eq
    {setting : Setting}
    (free : setting.place.IsFree entries) :
    setting.reset config = config := by
  cases setting with
  | title => rw [Setting.reset, ← eq_fallback_of_field loads.title free]
  | assetBase => rw [Setting.reset, ← eq_fallback_of_field loads.assetBase free]
  | theme => rw [Setting.reset, ← eq_fallback_of_field loads.theme free]
  | versions => rw [Setting.reset, ← eq_fallback_of_field loads.versions free]
  | link => rw [Setting.reset, ← eq_fallback_of_field loads.link free]
  | encoding =>
      obtain ⟨inner, found, missing⟩ := free
      rw [Setting.reset, ← eq_fallback_of_field (loads.loadsLink found).encoding missing]
  | parameter =>
      obtain ⟨inner, found, missing⟩ := free
      rw [Setting.reset, ← eq_fallback_of_field (loads.loadsLink found).parameter missing]

theorem Loads.isBounded
    {place : Place}
    (other : place.IsOther) :
    place.IsBounded entries := by
  cases place with
  | top key =>
      intro value member
      have passes := (passOver_eq_ok entries fields).mp loads.passOver (key, value) member
      exact passes.resolve_left ((Place.isOther_top key).mp other)
  | link key =>
      intro inner found value member
      have passes := (passOver_eq_ok inner linkFields).mp (loads.loadsLink found).passOver
        (key, value) member
      exact passes.resolve_left ((Place.isOther_link key).mp other)

theorem Loads.not_faulty : ¬Faulty entries := by
  rintro (⟨present, unread⟩ | ⟨other, unbounded⟩)
  · exact unread config (loads.reads present)
  · exact unbounded (loads.isBounded other)

end

theorem exists_loads
    {entries : Toml.Table}
    (sound : ¬Faulty entries) :
    ∃ config, Loads entries config := by
  have readable (setting : Setting) (value : Toml.Value)
      (present : setting.place.value? entries = some value) :
      ∃ config, setting.Reads value config := by
    by_contra unread
    exact sound (.value present fun config read => unread ⟨config, read⟩)
  have passes : passOver entries fields = .ok () := by
    rw [passOver_eq_ok]
    rintro ⟨key, value⟩ member
    by_cases known : key ∈ fields
    · exact .inl known
    · right
      by_contra unbounded
      exact sound (.number ((Place.isOther_top key).mpr known)
        fun bounded => unbounded (bounded value member))
  obtain ⟨title, isTitle⟩ : ∃ title, field entries "title" text? _ = .ok title :=
    exists_field fun value present => (readable .title value present).imp' _ fun _ read => read
  obtain ⟨assetBase, isAssetBase⟩ : ∃ root, field entries "asset_base" text? _ = .ok root :=
    exists_field fun value present => (readable .assetBase value present).imp' _ fun _ read => read
  obtain ⟨theme, isTheme⟩ : ∃ theme, field entries "theme" theme? _ = .ok theme :=
    exists_field fun value present => (readable .theme value present).imp' _ fun _ read => read
  obtain ⟨versions, isVersions⟩ : ∃ versions, field entries "versions" texts? _ = .ok versions :=
    exists_field fun value present => (readable .versions value present).imp' _ fun _ read => read
  obtain ⟨link, isLink⟩ : ∃ link, field entries "link" link? _ = .ok link :=
    exists_field fun value present => (readable .link value present).imp' _ fun _ read => read
  exact ⟨{ title, assetBase, theme, versions, link },
    passes, isTitle, isAssetBase, isTheme, isVersions, isLink⟩

/-! ## Tables that differ in one entry -/

section

variable {entries other : Toml.Table} {config : Config} (loads : Loads entries config)

include loads

/-- A table with the same entries for all settings but those for links. -/
theorem Loads.of_lookups
    {link : LinkConfig}
    (passes : Config.passOver other fields = .ok ())
    (lookups : ∀ name ∈ fields, name ≠ "link" → other.lookup name = entries.lookup name)
    (isLink : field other "link" link? ({} : Config).link = .ok link) :
    Loads other { config with link } where
  passOver := passes
  title := (field_congr (lookups "title" (by decide) (by decide))).trans loads.title
  assetBase := (field_congr (lookups "asset_base" (by decide) (by decide))).trans loads.assetBase
  theme := (field_congr (lookups "theme" (by decide) (by decide))).trans loads.theme
  versions := (field_congr (lookups "versions" (by decide) (by decide))).trans loads.versions
  link := isLink

/-- A table with another table for links. -/
theorem Loads.with_link
    {inner : Toml.Table}
    {link : LinkConfig}
    (elsewhere : other.without "link" = entries.without "link")
    (found : linkTable? other = some inner)
    (loadsLink : LoadsLink inner link) :
    Loads other { config with link } :=
  loads.of_lookups (passOver_of_without_eq loads.passOver elsewhere (.inl (by decide)))
    (fun _ _ different => Toml.Table.lookup_eq_of_without_eq elsewhere different)
    (field_link_of_loadsLink found loadsLink)

/-- A table without an entry for links loads if the table for links does without it. -/
theorem Loads.clear_link
    {key : String}
    {value : Toml.Value}
    (present : (Place.link key).value? entries = some value)
    {link : LinkConfig}
    (cleared :
      ∀ inner, LoadsLink inner config.link → LoadsLink (Toml.Table.without inner key) link) :
    Loads ((Place.link key).clear entries) { config with link } := by
  obtain ⟨inner, found, present⟩ := Option.bind_eq_some_iff.mp present
  -- A missing table for links counts as an empty one, which has no entry.
  have isTable : entries.lookup "link" = some (.table inner) := by
    rcases (linkTable?_eq_some entries inner).mp found with isTable | ⟨_, rfl⟩
    · exact isTable
    · cases present
  rw [Place.clear_link isTable]
  exact loads.with_link (Toml.Table.without_replace entries "link" _)
    (linkTable?_replace isTable _) (cleared inner (loads.loadsLink found))

/-- A table without the entry of a setting loads, and the setting has its default. -/
theorem Loads.clear
    {setting : Setting}
    {value : Toml.Value}
    (present : setting.place.value? entries = some value) :
    Loads (setting.place.clear entries) (setting.reset config) := by
  cases setting with
  | title | assetBase | theme | versions | link =>
      constructor <;>
        simp [Setting.place, Place.clear, Setting.reset, field_without,
          passOver_without loads.passOver, loads.title, loads.assetBase, loads.theme,
          loads.versions, loads.link]
  | encoding | parameter =>
      refine loads.clear_link present fun inner link => ?_
      constructor <;>
        simp [field_without, passOver_without link.passOver, link.encoding, link.parameter]

/-- Nothing is read from the places at which no setting stands. -/
theorem Loads.of_sameElsewhere
    {place : Place}
    (isOther : place.IsOther)
    (same : place.SameElsewhere entries other)
    (bounded : place.IsBounded other) :
    Loads other config := by
  cases place with
  | top key =>
      have unknown := (Place.isOther_top key).mp isOther
      have lookups (name : String) (known : name ∈ fields) :
          other.lookup name = entries.lookup name :=
        Toml.Table.lookup_eq_of_without_eq same fun isKey => unknown (isKey ▸ known)
      exact loads.of_lookups (passOver_of_without_eq loads.passOver same (.inr bounded))
        (fun name known _ => lookups name known)
        ((field_congr (lookups "link" (by decide))).trans loads.link)
  | link key =>
      obtain ⟨elsewhere, inner, changed, found, foundChanged, sameInner⟩ := same
      have link := loads.loadsLink found
      have unknown := (Place.isOther_link key).mp isOther
      have lookups (name : String) (known : name ∈ linkFields) :
          changed.lookup name = inner.lookup name :=
        Toml.Table.lookup_eq_of_without_eq sameInner fun isKey => unknown (isKey ▸ known)
      exact loads.with_link elsewhere foundChanged
        { passOver :=
            passOver_of_without_eq link.passOver sameInner (.inr (bounded changed foundChanged))
          encoding := (field_congr (lookups "strategy" (by decide))).trans link.encoding
          parameter := (field_congr (lookups "param" (by decide))).trans link.parameter }

theorem Loads.clear_other
    {place : Place}
    (isOther : place.IsOther) :
    Loads (place.clear entries) config := by
  rcases place.sameElsewhere_clear entries with unchanged | same
  · rwa [unchanged]
  · exact loads.of_sameElsewhere isOther same (Place.isBounded_clear (loads.isBounded isOther))

end

end Config

end ReportIndex
