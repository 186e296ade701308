import ReportIndex.Proofs.Command.FreshSite
import ReportIndex.Proofs.Config.Entry

/-!
Contract: what a file of settings comes to, whatever it holds.

Owns:
- a file that is of no use gives the defaults, and all of them;
- a file that is of use gives its settings entry by entry;
- numbers without a value, which count only where somebody asks for the value.

Does not own: what the value of an entry means.
-/

namespace ReportIndex

namespace Config

/-- What is known of settings that have been read from a table. -/
structure EntryByEntry (entries : Toml.Table) (config : Config) : Prop where
  loads : ofTable entries = .ok config
  /-- Every entry for a setting gives that setting. -/
  given :
    ∀ (setting : Setting) (value : Toml.Value), setting.place.value? entries = some value →
      setting.Reads value config
  /-- A setting without an entry has its default. -/
  missing : ∀ setting : Setting, setting.place.IsFree entries → setting.reset config = config
  /-- Without the entry for a setting, that setting has its default and the others stay. -/
  cleared :
    ∀ (setting : Setting) (value : Toml.Value), setting.place.value? entries = some value →
      ofTable (setting.place.clear entries) = .ok (setting.reset config)
  /-- Without any other entry, all settings stay. -/
  ignored : ∀ place : Place, place.IsOther → ofTable (place.clear entries) = .ok config
  /-- With any other entry, new or changed, all settings stay if its numbers have values. -/
  added :
    ∀ (place : Place) (other : Toml.Table), place.IsOther → place.SameElsewhere entries other →
      place.IsBounded other → ofTable other = .ok config

theorem Loads.entryByEntry
    {entries : Toml.Table}
    {config : Config}
    (loads : Loads entries config) :
    EntryByEntry entries config where
  loads := loads.ofTable
  given _ _ present := loads.reads present
  missing _ free := loads.reset_eq free
  cleared _ _ present := (loads.clear present).ofTable
  ignored _ isOther := (loads.clear_other isOther).ofTable
  added _ _ isOther same bounded := (loads.of_sameElsewhere isOther same bounded).ofTable

/-! ## Files -/

/-- Settings from a file that can be read, whatever is in it. -/
theorem load_of_read
    {start : Surroundings}
    {path : String}
    {content : ByteArray}
    (read : start.files.read path = .ok content) :
    ((load path : Simulation Config).run start).1 =
      match String.fromUTF8? content with
      | none => {}
      | some document => (ofToml document).toOption.getD {} := by
  obtain ⟨_, loaded, _⟩ := run_configLoad path start
  rw [loaded, inFiles, Files.kind?_of_read read, Files.readText, read]
  dsimp only
  cases String.fromUTF8? content with
  | none => rfl
  | some document =>
      dsimp only
      cases ofToml document <;> rfl

/-- **Settings are read all or nothing, and entry by entry.** A file that is not UTF-8, or no
TOML document, or one with a fault, gives the defaults. Any other file gives each setting as
its entry says or its default, so that taking the entry away resets that setting and no other;
and entries for no setting may come, change and go, as long as their numbers have values. -/
theorem settings_entry_by_entry
    {start : Surroundings}
    {path : String}
    {content : ByteArray}
    (read : start.files.read path = .ok content) :
    let loaded := ((load path : Simulation Config).run start).1
    (String.fromUTF8? content = none → loaded = {})
      ∧ ∀ document, String.fromUTF8? content = some document →
          (Toml.parse? document = none → loaded = {})
            ∧ ∀ entries, Toml.parse? document = some entries →
                (Faulty entries → loaded = {})
                  ∧ (¬Faulty entries → EntryByEntry entries loaded) := by
  intro loaded
  have outcome : loaded = _ := load_of_read read
  refine ⟨fun notText => by rw [outcome, notText], fun document isText => ?_⟩
  have outcome : loaded = (ofToml document).toOption.getD {} := by rw [outcome, isText]
  refine ⟨fun notToml => ?_, fun entries parsed => ?_⟩
  · rw [outcome, ofToml, notToml]
    rfl
  have outcome : loaded = (ofTable entries).toOption.getD {} := by rw [outcome, ofToml, parsed]
  constructor
  · intro faulty
    cases result : ofTable entries with
    | ok config => exact absurd faulty (Loads.of_ofTable result).not_faulty
    | error fault =>
        rw [outcome, result]
        rfl
  · intro sound
    obtain ⟨config, loads⟩ := exists_loads sound
    have same : loaded = config := by
      rw [outcome, loads.ofTable]
      rfl
    rw [same]
    exact loads.entryByEntry

/-- A file with two settings and two entries that say nothing; with one that says something
wrong, all of it is of no use. -/
theorem settings_of_small_files :
    let loaded (document : String) :=
      ((load "/work/reports.toml" : Simulation Config).run (Command.smallStart document)).1
    let document := "title = \"T\"\nbuild = 7\n[link]\nstrategy = \"path\"\nnote = 1.5\n"
    let link : Toml.Table := [("strategy", .string "path"), ("note", .float "1.5")]
    let entries : Toml.Table :=
      [("title", .string "T"), ("build", .integer "7"), ("link", .table link)]
    let flags : Toml.Value := .array [.integer "1", .boolean true]
    Toml.parse? document = some entries
      ∧ loaded document = { title := "T", link := { encoding := .path } }
      ∧ ofTable (Setting.encoding.place.clear entries) = .ok { title := "T" }
      ∧ ofTable ((Place.link "note").clear entries) = .ok (loaded document)
      ∧ ofTable (("flags", flags) :: entries) = .ok (loaded document)
      ∧ loaded "title = \"T\"\ntheme = \"sepia\"\n" = {} := by
  intro loaded document link entries flags
  have known (document : String) :=
    (@settings_entry_by_entry (Command.smallStart document) _ _
      (Command.read_smallSettings document)).2 document (fromUTF8?_toUTF8 document)
  have parsed : Toml.parse? document = some entries := by cbv
  have loads : ofTable entries = .ok { title := "T", link := { encoding := .path } } := by cbv
  have read : EntryByEntry entries (loaded document) :=
    ((known document).2 entries parsed).2 (Loads.of_ofTable loads).not_faulty
  have same : loaded document = { title := "T", link := { encoding := .path } } :=
    Except.ok.inj (read.loads.symm.trans loads)
  have noteIsOther : (Place.link "note").IsOther := (Place.isOther_link "note").mpr (by decide)
  have flagsIsOther : (Place.top "flags").IsOther := (Place.isOther_top "flags").mpr (by decide)
  have bounded : (Place.top "flags").IsBounded (("flags", flags) :: entries) := by
    intro value member
    obtain rfl : value = flags := by simpa [entries] using member
    cbv
  have wrong : Faulty [("title", .string "T"), ("theme", .string "sepia")] :=
    @Faulty.value _ .theme (.string "sepia") rfl fun _ taken => by cases taken
  refine ⟨parsed, same, ?_, read.ignored _ noteIsOther,
    read.added (.top "flags") _ flagsIsOther rfl bounded,
    ((known _).2 _ (by cbv)).1 wrong⟩
  rw [read.cleared .encoding (.string "path") rfl, same]
  rfl

/-- **Numbers count only where somebody asks for their value.** An entry that says nothing
makes a file useless with a number that is too large, and text that is no number at all can
stand in a file that is of use. -/
theorem number_without_value :
    let loaded (document : String) :=
      ((load "/work/reports.toml" : Simulation Config).run (Command.smallStart document)).1
    let link : Toml.Value := .array [.string "path", .string "v", .integer "0x"]
    Toml.parse? "title = \"t\"\n" = some [("title", .string "t")]
      ∧ loaded "title = \"t\"\n" = { title := "t" }
      ∧ Toml.parse? "title = \"t\"\nx = -1e309\n" =
          some [("title", .string "t"), ("x", .float "-1e309")]
      ∧ (Place.top "x").IsOther
      ∧ (Place.top "x").SameElsewhere [("title", .string "t")]
          [("title", .string "t"), ("x", .float "-1e309")]
      ∧ loaded "title = \"t\"\nx = -1e309\n" = {}
      ∧ Toml.parse? "title = \"T\"\nlink = [\"path\", \"v\", 0x]\n" =
          some [("title", .string "T"), ("link", link)]
      ∧ Toml.integerValue? "0x".toList = none
      ∧ loaded "title = \"T\"\nlink = [\"path\", \"v\", 0x]\n" =
          { title := "T", link := { encoding := .path, parameter := "v" } } := by
  intro loaded link
  have outcome (document : String) : loaded document = (ofToml document).toOption.getD {} := by
    have outcome := @load_of_read (Command.smallStart document) _ _
      (Command.read_smallSettings document)
    rwa [fromUTF8?_toUTF8] at outcome
  have short : Toml.parse? "title = \"t\"\n" = some [("title", .string "t")] := by cbv
  have long : Toml.parse? "title = \"t\"\nx = -1e309\n" =
      some [("title", .string "t"), ("x", .float "-1e309")] := by cbv
  have items : Toml.parse? "title = \"T\"\nlink = [\"path\", \"v\", 0x]\n" =
      some [("title", .string "T"), ("link", link)] := by cbv
  have large : ofTable [("title", .string "t"), ("x", .float "-1e309")] =
      .error (.invalidNumber "x") := by cbv
  refine ⟨short, ?_, long, (Place.isOther_top "x").mpr (by decide), rfl, ?_, items, by decide, ?_⟩
  · rw [outcome, ofToml, short]
    rfl
  · rw [outcome, ofToml, long]
    dsimp only
    rw [large]
    rfl
  · rw [outcome, ofToml, items]
    rfl

end Config

end ReportIndex
