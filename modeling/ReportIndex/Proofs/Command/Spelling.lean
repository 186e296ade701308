import ReportIndex.Proofs.Command.FreshSite
import ReportIndex.Proofs.Command.Words
import ReportIndex.Proofs.Config.Table
import ReportIndex.Proofs.Toml.Quoted

/-!
Contract: how a setting is spelled on the command line, and how in a document.

Owns:
- the settings with a short list of words: the theme, and the strategy of links;
- which words the command line takes, and which a document;
- a setting that moves from the command line to a document.

Does not own: settings that are any text.
-/

namespace ReportIndex.Command

/-- A setting that is one of a few values, with a word for each of them. -/
structure Choice (α : Type) where
  option : OptionSpec
  name : α → String
  /-- Further words, which only the command line knows. -/
  aliases : List (String × α)
  /-- What the command line reads. -/
  ofText? : String → Option α
  /-- What a document reads. -/
  ofQuoted? : String → Option α
  given : RenderArguments → Option α
  set : Option α → RenderArguments → RenderArguments
  configure : α → Config → Config
  /-- The second table has a word for the setting and is otherwise the first. -/
  Sets : String → Toml.Table → Toml.Table → Prop

/-- On the command line, case and blanks around a word do not matter. -/
def Choice.Means {α : Type} (choice : Choice α) (word : String) (value : α) : Prop :=
  Text.meant word = choice.name value ∨ (Text.meant word, value) ∈ choice.aliases

def themeChoice : Choice Theme where
  option := ⟨"theme", .theme⟩
  name := Theme.name
  aliases := [("auto", .system)]
  ofText? word := (Theme.ofText word).toOption
  ofQuoted? := Theme.ofName?
  given := RenderArguments.theme
  set theme arguments := { arguments with theme }
  configure theme config := { config with theme }
  Sets word := Toml.Sets "theme" (.string word)

def encodingChoice : Choice LinkEncoding where
  option := ⟨"strategy", .encoding⟩
  name := LinkEncoding.name
  aliases := []
  ofText? word := (LinkEncoding.ofText word).toOption
  ofQuoted? := LinkEncoding.ofName?
  given := RenderArguments.encoding
  set encoding arguments := { arguments with encoding }
  configure encoding config := { config with link := { config.link with encoding } }
  Sets := Config.SetsStrategy

/-- What a word says for a setting, on the command line and in a document. -/
structure Compared {α : Type} (choice : Choice α) (word : String) : Prop where
  /-- Behind words that do not give the setting, an option gives it the value that its
  word means. -/
  option :
    ∀ {words request arguments}, "--" ∉ words → Request.ofWords words = .ok request →
      request.task = .render arguments → choice.given arguments = none →
      ∀ value,
        Request.ofWords (words ++ ["--" ++ choice.option.name, word]) =
            .ok { request with task := .render (choice.set (some value) arguments) } ↔
          choice.Means word value
  /-- In a document that can be used, only the name of a value is taken for it. -/
  document :
    ∀ {entries config changed document path} {start : Surroundings},
      Config.ofTable entries = .ok config → choice.Sets word entries changed →
      Toml.parse? document = some changed → start.files.read path = .ok document.toUTF8 →
      ∀ value,
        (Config.load path : Simulation Config).run start = (choice.configure value config, start) ↔
          word = choice.name value
  /-- With any other word, the whole document is of no use. -/
  discarded :
    ∀ {entries config changed document path} {start : Surroundings},
      Config.ofTable entries = .ok config → choice.Sets word entries changed →
      Toml.parse? document = some changed → start.files.read path = .ok document.toUTF8 →
      (∀ value, word ≠ choice.name value) →
      ((Config.load path : Simulation Config).run start).1 = {}
  /-- There is a document in which the setting is all that is said. -/
  written : ∃ document entries, Toml.parse? document = some entries ∧ choice.Sets word [] entries
  /-- A name means the same on the command line. -/
  name : ∀ value, word = choice.name value → choice.Means word value
  /-- A run with the option is a run without it, on settings that have the value. -/
  moved :
    ∀ {m : Type → Type} [Monad m] [Workspace m] {request : Request} {arguments},
      request.task = .render arguments → choice.given arguments = none →
      ∀ value,
        (run { request with task := .render (choice.set (some value) arguments) } : TaskM m Nat) =
          loadConfig request.config >>= fun config =>
            render arguments (choice.configure value config)

/-! ## Options that have been read -/

/-- The arguments of a request to render, from the options that have been read. -/
def RenderArguments.ofGiven (catalog : String) (given : Given) : RenderArguments :=
  { catalog
    out := given.value? "out"
    documentVersion := given.value? "doc-version"
    theme := (given.value? "theme").bind fun word => (Theme.ofText word).toOption
    assetBase := given.value? "asset-base"
    encoding := (given.value? "strategy").bind fun word => (LinkEncoding.ofText word).toOption
    parameter := given.value? "param"
    title := given.value? "title"
    fragment := given.has "fragment" }

theorem ofRender_eq_ok (given : Given) (arguments : RenderArguments) :
    Task.ofRender given = .ok (.render arguments) ↔
      ∃ catalog, given.value? "catalog" = some catalog
        ∧ arguments = .ofGiven catalog given := by
  rw [Task.ofRender, bind_eq_ok, required]
  cases given.value? "catalog" <;> simp [pure, Except.pure, RenderArguments.ofGiven, eq_comm]

/-- The facts about a setting from which all else follows. -/
structure Choice.Lawful {α : Type} (choice : Choice α) : Prop where
  takes : renderLevel.Takes choice.option
  /-- It is none of the options that are read for every request to render. -/
  alone : choice.option.name ∉ ["log-level", "config", "catalog"]
  ofText : ∀ word value, choice.ofText? word = some value ↔ choice.Means word value
  ofQuoted : ∀ word value, choice.ofQuoted? word = some value ↔ word = choice.name value
  name : ∀ value, choice.Means (choice.name value) value
  check :
    ∀ word, choice.option.kind.check word = .ok () ↔ ∃ value, choice.ofText? word = some value
  /-- No word for a value is taken for an option. -/
  noDash : ∀ word value, choice.ofText? word = some value → word.toList.head? ≠ some '-'
  given_set : ∀ value? arguments, choice.given (choice.set value? arguments) = value?
  given_ofGiven :
    ∀ catalog given,
      choice.given (.ofGiven catalog given) =
        (given.value? choice.option.name).bind choice.ofText?
  ofGiven_cons :
    ∀ catalog given word,
      RenderArguments.ofGiven catalog ((choice.option.name, word) :: given) =
        choice.set (choice.ofText? word) (.ofGiven catalog given)
  configure_injective :
    ∀ {config value other}, choice.configure value config = choice.configure other config →
      value = other
  ofTable :
    ∀ {entries config changed word}, Config.ofTable entries = .ok config →
      choice.Sets word entries changed →
      ∃ fault, Config.ofTable changed =
        match choice.ofQuoted? word with
        | some value => .ok (choice.configure value config)
        | none => .error fault
  written :
    ∀ word, ∃ document entries, Toml.parse? document = some entries ∧ choice.Sets word [] entries
  render_set :
    ∀ {m : Type → Type} [Monad m] [Workspace m] {arguments}, choice.given arguments = none →
      ∀ value config,
        (render (choice.set (some value) arguments) config : TaskM m Nat) =
          render arguments (choice.configure value config)

namespace Choice.Lawful

variable {α : Type} {choice : Choice α} (lawful : choice.Lawful)

include lawful

/-- The options of a request without the setting do not name it: what they name has been
checked. -/
theorem fresh
    {given : Given}
    {catalog : String}
    (checked : given.Checked renderLevel)
    (notGiven : choice.given (.ofGiven catalog given) = none) :
    given.has choice.option.name = false := by
  rw [Given.has_eq_false]
  cases found : given.value? choice.option.name with
  | none => rfl
  | some word =>
      have accepted := checked.check_of_value? lawful.takes found
      obtain ⟨value, read⟩ := (lawful.check word).mp accepted
      rw [lawful.given_ofGiven, found, Option.bind_some, read] at notGiven
      cases notGiven

theorem ofRender_cons
    {given : Given}
    {catalog : String}
    (found : given.value? "catalog" = some catalog)
    (word : String)
    (value : α) :
    Task.ofRender ((choice.option.name, word) :: given) =
        .ok (.render (choice.set (some value) (.ofGiven catalog given))) ↔
      choice.ofText? word = some value := by
  have alone := lawful.alone
  simp only [List.mem_cons, List.not_mem_nil, or_false, not_or] at alone
  have sameCatalog := Given.value?_cons_of_ne (Ne.symm alone.2.2) given word
  rw [ofRender_eq_ok, sameCatalog, found]
  constructor
  · rintro ⟨other, same, sets⟩
    rw [lawful.ofGiven_cons] at sets
    have values := congrArg choice.given sets
    rw [lawful.given_set, lawful.given_set] at values
    exact values.symm
  · intro read
    exact ⟨catalog, rfl, by rw [lawful.ofGiven_cons, read]⟩

theorem option
    {word : String}
    {words : List String}
    {request : Request}
    {arguments : RenderArguments}
    (noBreak : "--" ∉ words)
    (read : Request.ofWords words = .ok request)
    (task : request.task = .render arguments)
    (notGiven : choice.given arguments = none)
    (value : α) :
    Request.ofWords (words ++ ["--" ++ choice.option.name, word]) =
        .ok { request with task := .render (choice.set (some value) arguments) } ↔
      choice.Means word value := by
  obtain ⟨rest, inner, outer, reads, made, rfl⟩ := exists_renderWords read task
  obtain ⟨catalog, found, rfl⟩ := (ofRender_eq_ok _ _).mp made
  have fresh := lawful.fresh (Given.checked_of_readAll reads.rest) notGiven
  have noDash : choice.option.kind.check word = .ok () → word.toList.head? ≠ some '-' := by
    intro accepted
    obtain ⟨value, read⟩ := (lawful.check word).mp accepted
    exact lawful.noDash word value read
  have alone := lawful.alone
  simp only [List.mem_cons, List.not_mem_nil, or_false, not_or] at alone
  rw [reads.ofWords_option_eq_ok noBreak lawful.takes noDash, ← lawful.ofText,
    ← lawful.ofRender_cons found, List.cons_append]
  constructor
  · rintro ⟨_, _, outcome⟩
    obtain ⟨task, makes, same⟩ := (map_eq_ok _ _ _).mp outcome
    obtain rfl : task = _ := congrArg Request.task same
    exact makes
  · intro makes
    have read := (lawful.ofRender_cons found word value).mp makes
    refine ⟨fresh, (lawful.check word).mpr ⟨value, read⟩, ?_⟩
    rw [makes, Except.map, Request.withOptions_cons (Ne.symm alone.1) (Ne.symm alone.2.1)]
    rfl

section

variable {entries changed : Toml.Table} {config : Config} {word document : String}
  (loads : Config.ofTable entries = .ok config)
  (sets : choice.Sets word entries changed)
  (parsed : Toml.parse? document = some changed)

include loads sets parsed

theorem ofToml_eq_ok (value : α) :
    Config.ofToml document = .ok (choice.configure value config) ↔ word = choice.name value := by
  obtain ⟨fault, outcome⟩ := lawful.ofTable loads sets
  have whole : Config.ofToml document = Config.ofTable changed := by rw [Config.ofToml, parsed]
  rw [whole, outcome, ← lawful.ofQuoted]
  cases choice.ofQuoted? word with
  | none => simp
  | some found =>
      simp only [Except.ok.injEq, Option.some.injEq]
      exact ⟨lawful.configure_injective, fun same => same ▸ rfl⟩

theorem ofToml_eq_error (noName : ∀ value, word ≠ choice.name value) :
    ∃ fault, Config.ofToml document = .error fault := by
  obtain ⟨fault, outcome⟩ := lawful.ofTable loads sets
  have unread : choice.ofQuoted? word = none :=
    Option.eq_none_iff_forall_ne_some.mpr fun value read =>
      noName value ((lawful.ofQuoted word value).mp read)
  rw [unread] at outcome
  refine ⟨fault, ?_⟩
  rw [Config.ofToml, parsed]
  exact outcome

end

theorem compared (word : String) : Compared choice word where
  option noBreak read task notGiven value := lawful.option noBreak read task notGiven value
  document loads sets parsed read value := by
    rw [run_configLoad_of_read read, lawful.ofToml_eq_ok loads sets parsed]
  discarded {_ _ _ _ path start} loads sets parsed read noName := by
    obtain ⟨fault, faulty⟩ := lawful.ofToml_eq_error loads sets parsed noName
    obtain ⟨_, loaded, _⟩ := run_configLoad path start
    rw [loaded, Config.inFiles_of_useless read faulty]
  written := lawful.written word
  name value named := named ▸ lawful.name value
  moved task notGiven value := by
    rw [run]
    simp only [lawful.render_set notGiven]

end Choice.Lawful

/-! ## The two settings -/

theorem takes_theme : renderLevel.Takes ⟨"theme", .theme⟩ := by
  refine ⟨rfl, ?_, ?_, ?_, ?_, ?_⟩ <;> decide

theorem takes_strategy : renderLevel.Takes ⟨"strategy", .encoding⟩ := by
  refine ⟨rfl, ?_, ?_, ?_, ?_, ?_⟩ <;> decide

theorem ofGiven_theme (catalog : String) (given : Given) (word : String) :
    RenderArguments.ofGiven catalog (("theme", word) :: given) =
      { RenderArguments.ofGiven catalog given with theme := (Theme.ofText word).toOption } := by
  have others : ∀ other, other ≠ "theme" →
      Given.value? (("theme", word) :: given) other = given.value? other :=
    fun _ different => Given.value?_cons_of_ne different given word
  simp [RenderArguments.ofGiven, others, Given.has]

theorem ofGiven_strategy (catalog : String) (given : Given) (word : String) :
    RenderArguments.ofGiven catalog (("strategy", word) :: given) =
      { RenderArguments.ofGiven catalog given with
        encoding := (LinkEncoding.ofText word).toOption } := by
  have others : ∀ other, other ≠ "strategy" →
      Given.value? (("strategy", word) :: given) other = given.value? other :=
    fun _ different => Given.value?_cons_of_ne different given word
  simp [RenderArguments.ofGiven, others, Given.has]

/-- Rendering looks at the settings only with those of the command line in their place. -/
theorem render_congr
    {m : Type → Type}
    [Monad m]
    [Workspace m]
    {arguments other : RenderArguments}
    {config otherConfig : Config}
    (settings : arguments.override config = other.override otherConfig)
    (catalog : arguments.catalog = other.catalog)
    (out : arguments.out = other.out)
    (documentVersion : arguments.documentVersion = other.documentVersion)
    (fragment : arguments.fragment = other.fragment) :
    (render arguments config : TaskM m Nat) = render other otherConfig := by
  simp only [render, writeSinglePage, settings, catalog, out, documentVersion, fragment]

theorem lawful_theme : themeChoice.Lawful where
  takes := takes_theme
  alone := by decide
  ofText word theme := by
    simp [Choice.Means, themeChoice, toOption_eq_some, Theme.ofText_eq_ok]
  name theme := .inl theme.meant_name
  check word := by
    simp only [themeChoice, ValueKind.check]
    exact check_eq_ok _ _
  noDash word theme read := by
    simp only [themeChoice, toOption_eq_some] at read
    exact Theme.head?_of_ofText read
  given_set _ _ := rfl
  given_ofGiven _ _ := by simp only [themeChoice, RenderArguments.ofGiven]
  ofGiven_cons catalog given word := by
    simp only [themeChoice]
    exact ofGiven_theme catalog given word
  ofQuoted := Theme.ofName?_eq_some
  configure_injective same := congrArg Config.theme same
  ofTable {_ _ _ word} loads sets := by
    have read : Config.theme? (.string word) = Theme.ofName? word := rfl
    refine ⟨.wrongValue "theme", ?_⟩
    rw [Config.ofTable_of_sets_theme (.of_ofTable loads) sets, read]
    simp only [themeChoice]
    cases Theme.ofName? word <;> rfl
  written word := ⟨_, _, Toml.parse?_themeDocument word, .alone _ _⟩
  render_set notGiven theme config := by
    simp only [themeChoice] at notGiven ⊢
    exact render_congr (by simp [RenderArguments.override, notGiven]) rfl rfl rfl rfl

theorem lawful_encoding : encodingChoice.Lawful where
  takes := takes_strategy
  alone := by decide
  ofText word encoding := by
    simp [Choice.Means, encodingChoice, toOption_eq_some, LinkEncoding.ofText_eq_ok]
  name encoding := .inl encoding.meant_name
  check word := by
    simp only [encodingChoice, ValueKind.check]
    exact check_eq_ok _ _
  noDash word encoding read := by
    simp only [encodingChoice, toOption_eq_some] at read
    exact LinkEncoding.head?_of_ofText read
  given_set _ _ := rfl
  given_ofGiven _ _ := by simp only [encodingChoice, RenderArguments.ofGiven]
  ofGiven_cons catalog given word := by
    simp only [encodingChoice]
    exact ofGiven_strategy catalog given word
  ofQuoted := LinkEncoding.ofName?_eq_some
  configure_injective same := congrArg (fun config : Config => config.link.encoding) same
  ofTable {_ _ _ word} loads sets := by
    refine ⟨.wrongValue "link", ?_⟩
    rw [Config.ofTable_of_setsStrategy (.of_ofTable loads) sets]
    simp only [encodingChoice]
    cases LinkEncoding.ofName? word <;> rfl
  written word :=
    ⟨_, _, Toml.parse?_strategyDocument word,
      ⟨[], [("strategy", .string word)], .inr ⟨rfl, rfl⟩, .alone _ _, .alone _ _⟩⟩
  render_set notGiven encoding config := by
    simp only [encodingChoice] at notGiven ⊢
    exact render_congr (by simp [RenderArguments.override, notGiven]) rfl rfl rfl rfl

/-- **A word gives the theme, or the strategy of links, on the command line if its
trimmed form in lower case is a word for a value, and in a document only if it is the
name of a value; with any other word the document is of no use. A name moves from the
command line to a document without a change to what is rendered.** -/
theorem settings_spelled (word : String) :
    Compared themeChoice word ∧ Compared encodingChoice word :=
  ⟨lawful_theme.compared word, lawful_encoding.compared word⟩

/-- The strategy `path` in capitals on the command line, and by its name in the
settings of the small workspace. -/
theorem settings_spelled_path :
    Request.ofWords ["render", "--catalog", "r.json", "--strategy", " PATH"] =
        .ok { task := .render { catalog := "r.json", encoding := some .path } }
      ∧ (Config.load "/work/reports.toml" : Simulation Config).run
            (smallStart (Toml.strategyDocument "path")) =
          ({ link := { encoding := .path } }, smallStart (Toml.strategyDocument "path")) := by
  have words : Request.ofWords ["render", "--catalog", "r.json"] = .ok smallRequest := by
    decide
  have loads : Config.ofTable [] = .ok {} := rfl
  constructor
  · exact ((settings_spelled " PATH").2.option (by decide) words rfl rfl .path).mpr
      (.inl (by decide))
  · exact ((settings_spelled "path").2.document loads
      ⟨[], [("strategy", .string "path")], .inr ⟨rfl, rfl⟩, .alone _ _, .alone _ _⟩
      (Toml.parse?_strategyDocument "path") (read_smallSettings _) .path).mpr rfl

/-- **A capital letter is enough for a document to be of no use.** -/
theorem capital_theme_discarded :
    Request.ofWords ["render", "--catalog", "r.json", "--theme", "Dark"] =
        .ok { task := .render { catalog := "r.json", theme := some .dark } }
      ∧ Toml.parse? "theme = \"Dark\"\n" = some [("theme", .string "Dark")]
      ∧ Config.ofToml "theme = \"Dark\"\n" = .error (.wrongValue "theme")
      ∧ ((Config.load "/work/reports.toml" : Simulation Config).run
          (smallStart "theme = \"Dark\"\n")).1.theme = .system := by
  have parsed : Toml.parse? "theme = \"Dark\"\n" = some [("theme", .string "Dark")] := by
    cbv
  have useless : Config.ofToml "theme = \"Dark\"\n" = .error (.wrongValue "theme") := by
    rw [Config.ofToml, parsed]
    rfl
  obtain ⟨_, loaded, _⟩ := run_configLoad "/work/reports.toml" (smallStart "theme = \"Dark\"\n")
  refine ⟨by decide, parsed, useless, ?_⟩
  rw [loaded, smallStart, Config.inFiles_of_useless (read_smallSettings _) useless]

end ReportIndex.Command
