import Mathlib.Data.List.TakeWhile
import ReportIndex.Command.Arguments
import ReportIndex.Proofs.Result

/-!
Contract: reading the words of a command line, piece by piece.

Owns:
- words behind those that have been read are read from there on;
- every value that has been read is one that its option accepts;
- an option with its value at the end of a command line.

Does not own: which options the program has.
-/

namespace ReportIndex.Command

/-! ## Words behind words -/

theorem toList_eq_dashes (word : String) : word.toList = ['-', '-'] ↔ word = "--" := by
  rw [← String.toList_inj]
  rfl

section

variable {level : Level} {words : List String} {progress : Progress} {word : String}
  (noSubcommand : ¬(!progress.awaitsValue && level.subcommands.contains word) = true)

include noSubcommand

theorem Level.read_long
    {text : List Char}
    (nonempty : text ≠ [])
    (characters : word.toList = '-' :: '-' :: text) :
    level.read progress (word :: words) =
      (level.readLong progress text >>= fun next => level.read next words) := by
  rw [Level.read.eq_def]
  dsimp only
  rw [if_neg noSubcommand, characters]
  cases text with
  | nil => exact absurd rfl nonempty
  | cons first rest => rfl

theorem Level.read_value
    {option : OptionSpec}
    (isOpen : progress.open? = some (option, none))
    (noDash : ∀ letter letters, word.toList ≠ '-' :: letter :: letters) :
    level.read progress (word :: words) =
      level.read { progress with open? := some (option, some word) } words := by
  rw [Level.read.eq_def]
  dsimp only
  rw [if_neg noSubcommand, isOpen]
  split
  next characters => exact absurd characters (noDash _ _)
  next characters => exact absurd characters (noDash _ _)
  next characters => exact absurd characters (noDash _ _)
  next => rfl

end

section

variable {level : Level} {words : List String} {progress after : Progress}

/-- If the words of a level have been read to their end, it goes on with those behind
them. Only two dashes alone would end the options. -/
theorem Level.read_append
    (read : level.read progress words = .ok (after, none))
    (noBreak : "--" ∉ words)
    (more : List String) :
    level.read progress (words ++ more) = level.read after more := by
  fun_induction Level.read level progress words with
  | case1 progress =>
      cases read
      rfl
  | case2 | case4 | case6 | case8 => cases read
  | case3 progress word _ dashes =>
      rw [toList_eq_dashes] at dashes
      exact absurd (List.mem_singleton.mpr dashes.symm) noBreak
  | case5 progress word words noSubcommand text nonempty characters inductionHypothesis =>
      rw [List.mem_cons, not_or] at noBreak
      obtain ⟨next, outcome, read⟩ := (bind_eq_ok _ _ _).mp read
      rw [List.cons_append, read_long noSubcommand nonempty characters, outcome]
      exact inductionHypothesis next read noBreak.2
  | case7 progress word words noSubcommand option isOpen _ _ noShort inductionHypothesis =>
      rw [List.mem_cons, not_or] at noBreak
      rw [List.cons_append, read_value noSubcommand isOpen noShort]
      exact inductionHypothesis read noBreak.2

/-- What stands behind a subcommand is not read with what stands before it. -/
theorem Level.read_append_of_subcommand
    {subcommand : String}
    {rest : List String}
    (read : level.read progress words = .ok (after, some (subcommand, rest)))
    (more : List String) :
    level.read progress (words ++ more) = .ok (after, some (subcommand, rest ++ more))
      ∧ rest ⊆ words := by
  fun_induction Level.read level progress words with
  | case1 | case3 | case4 | case6 | case8 => cases read
  | case2 progress word words isSubcommand =>
      cases read
      rw [List.cons_append, Level.read.eq_def]
      exact ⟨if_pos isSubcommand, List.subset_cons_self _ _⟩
  | case5 progress word words noSubcommand text nonempty characters inductionHypothesis =>
      obtain ⟨next, outcome, read⟩ := (bind_eq_ok _ _ _).mp read
      obtain ⟨further, behind⟩ := inductionHypothesis next read
      rw [List.cons_append, read_long noSubcommand nonempty characters, outcome]
      exact ⟨further, List.subset_cons_of_subset word behind⟩
  | case7 progress word words noSubcommand option isOpen _ _ noShort inductionHypothesis =>
      rw [List.cons_append, read_value noSubcommand isOpen noShort]
      obtain ⟨further, behind⟩ := inductionHypothesis read
      exact ⟨further, List.subset_cons_of_subset word behind⟩

end

/-! ## Values that are accepted -/

theorem Progress.settle_eq_ok (given more : Given) (option : OptionSpec) (value : String) :
    settle given option value = .ok more ↔
      given.has option.name = false ∧ option.kind.check value = .ok ()
        ∧ more = (option.name, value) :: given := by
  rw [settle]
  split
  next repeated => simp [repeated]
  next fresh =>
    rw [bind_eq_ok]
    constructor
    · rintro ⟨_, accepted, same⟩
      cases same
      exact ⟨(Bool.not_eq_true _).mp fresh, accepted, rfl⟩
    · rintro ⟨_, accepted, rfl⟩
      exact ⟨(), accepted, rfl⟩

/-- Every value is one that an option of its name accepts. -/
def Given.Checked (level : Level) (given : Given) : Prop :=
  ∀ entry ∈ given, ∃ option ∈ level.options,
    option.name = entry.1 ∧ option.kind.check entry.2 = .ok ()

/-- All that has been read is checked, or belongs to an option that can be checked. -/
structure Progress.Checked (level : Level) (progress : Progress) : Prop where
  given : progress.given.Checked level
  isOption : ∀ option value?, progress.open? = some (option, value?) → option ∈ level.options

section

variable {level : Level}

theorem Given.Checked.settle
    {given more : Given}
    {option : OptionSpec}
    {value : String}
    (checked : given.Checked level)
    (isOption : option ∈ level.options)
    (settled : Progress.settle given option value = .ok more) :
    more.Checked level := by
  obtain ⟨_, accepted, rfl⟩ := (Progress.settle_eq_ok _ _ _ _).mp settled
  exact List.forall_mem_cons.mpr ⟨⟨option, isOption, rfl, accepted⟩, checked⟩

theorem Progress.Checked.close
    {progress : Progress}
    {given : Given}
    (checked : progress.Checked level)
    (closed : progress.close = .ok given) :
    given.Checked level := by
  rw [Progress.close] at closed
  split at closed
  next =>
    cases closed
    exact checked.given
  next => cases closed
  next option value isOpen =>
    exact checked.given.settle (checked.isOption _ _ isOpen) closed

end

/-- What a word with two dashes can do: it settles the option that is open, and then
settles its own or opens it. -/
theorem Level.readLong_eq_ok
    {level : Level}
    {progress next : Progress}
    {text : List Char}
    (read : level.readLong progress text = .ok next) :
    ∃ given, progress.close = .ok given ∧ ∃ option ∈ level.options,
      (∃ value more, Progress.settle given option value = .ok more ∧ next = { given := more })
        ∨ next = { given, open? := some (option, none) } := by
  rw [Level.readLong] at read
  split at read
  next => cases read
  next =>
    obtain ⟨_, _, read⟩ := (bind_eq_ok _ _ _).mp read
    cases read
  next => cases read
  next => cases read
  next name _ found _ =>
    obtain ⟨given, closed, read⟩ := (bind_eq_ok _ _ _).mp read
    obtain ⟨more, settled, same⟩ := (bind_eq_ok _ _ _).mp read
    cases same
    exact ⟨given, closed, ⟨name, .flag⟩, List.mem_of_find?_eq_some found,
      .inl ⟨"", more, settled, rfl⟩⟩
  next option value _ _ found _ =>
    obtain ⟨given, closed, read⟩ := (bind_eq_ok _ _ _).mp read
    obtain ⟨more, settled, same⟩ := (bind_eq_ok _ _ _).mp read
    cases same
    exact ⟨given, closed, option, List.mem_of_find?_eq_some found,
      .inl ⟨value, more, settled, rfl⟩⟩
  next option _ _ found _ =>
    obtain ⟨given, closed, same⟩ := (bind_eq_ok _ _ _).mp read
    cases same
    exact ⟨given, closed, option, List.mem_of_find?_eq_some found, .inr rfl⟩

section

variable {level : Level} {progress : Progress} (checked : progress.Checked level)

include checked

theorem Progress.Checked.readLong
    {next : Progress}
    {text : List Char}
    (read : level.readLong progress text = .ok next) :
    next.Checked level := by
  obtain ⟨given, closed, option, isOption, ⟨value, more, settled, rfl⟩ | rfl⟩ :=
    Level.readLong_eq_ok read
  · exact ⟨(checked.close closed).settle isOption settled, fun _ _ isOpen => nomatch isOpen⟩
  · refine ⟨checked.close closed, ?_⟩
    rintro _ _ ⟨⟩
    exact isOption

theorem Progress.Checked.read
    {words : List String}
    {after : Progress}
    {subcommand? : Option (String × List String)}
    (read : level.read progress words = .ok (after, subcommand?)) :
    after.Checked level := by
  fun_induction Level.read level progress words with
  | case1 | case2 | case3 =>
      cases read
      exact checked
  | case4 | case6 | case8 => cases read
  | case5 progress word words _ text _ _ inductionHypothesis =>
      obtain ⟨next, outcome, read⟩ := (bind_eq_ok _ _ _).mp read
      exact inductionHypothesis next (checked.readLong outcome) read
  | case7 progress word words _ option isOpen _ _ _ inductionHypothesis =>
      refine inductionHypothesis ⟨checked.given, ?_⟩ read
      rintro _ _ ⟨⟩
      exact checked.isOption option none isOpen

end

/-- Whatever the words are, each value is one that its option accepts. -/
theorem Given.checked_of_readAll
    {level : Level}
    {words : List String}
    {given : Given}
    (read : level.readAll words = .ok given) :
    given.Checked level := by
  obtain ⟨⟨after, _⟩, outcome, closed⟩ := (bind_eq_ok _ _ _).mp read
  have empty : Progress.Checked level {} :=
    ⟨fun _ member => absurd member List.not_mem_nil, fun _ _ isOpen => nomatch isOpen⟩
  exact (empty.read outcome).close closed

/-! ## An option behind all words -/

/-- An option of the level that takes a value, and can be named by a word. -/
structure Level.Takes (level : Level) (option : OptionSpec) : Prop where
  isOption : level.options.find? (·.name == option.name) = some option
  unique : ∀ other ∈ level.options, other.name = option.name → other = option
  valued : option.kind ≠ .flag
  nonempty : option.name.toList ≠ []
  plain : '=' ∉ option.name.toList
  notHelp : option.name ≠ "help"

section

variable {level : Level} {option : OptionSpec} {progress : Progress} {given : Given}
  (noSubcommands : level.subcommands = [])

include noSubcommands

theorem Level.read_of_no_subcommands
    {words : List String}
    {after : Progress}
    {subcommand? : Option (String × List String)}
    (read : level.read progress words = .ok (after, subcommand?)) :
    subcommand? = none := by
  cases subcommand? with
  | none => rfl
  | some found =>
      fun_induction Level.read level progress words with
      | case1 | case3 | case4 | case6 | case8 => cases read
      | case2 progress word words isSubcommand => simp [noSubcommands] at isSubcommand
      | case5 progress word words _ text _ _ inductionHypothesis =>
          obtain ⟨next, _, read⟩ := (bind_eq_ok _ _ _).mp read
          exact inductionHypothesis next read
      | case7 progress word words _ option isOpen _ _ _ inductionHypothesis =>
          exact inductionHypothesis read

theorem Level.readLong_option
    (takes : level.Takes option)
    (closed : progress.close = .ok given) :
    level.readLong progress option.name.toList =
      .ok { given, open? := some (option, none) } := by
  have named : ∀ character ∈ option.name.toList, (character != '=') = true := by
    intro character member
    rw [bne_iff_ne]
    rintro rfl
    exact takes.plain member
  have name : option.name.toList.takeWhile (· != '=') = option.name.toList :=
    List.takeWhile_eq_self_iff.mpr named
  have value : option.name.toList.dropWhile (· != '=') = [] :=
    List.dropWhile_eq_nil_iff.mpr named
  have notTop : level.isTop = false := by simp [Level.isTop, noSubcommands]
  simp only [Level.readLong, name, value, String.ofList_toList, takes.notHelp, notTop, takes.isOption,
    closed, bind, Except.bind, pure, Except.pure, if_false, Bool.false_eq_true, and_false]
  obtain ⟨label, kind⟩ := option
  cases kind with
  | flag => exact absurd rfl takes.valued
  | _ => rfl

variable {word : String}

theorem Level.notSubcommand (progress : Progress) (word : String) :
    ¬(!progress.awaitsValue && level.subcommands.contains word) = true := by
  simp [noSubcommands]

theorem Level.read_option
    (takes : level.Takes option)
    (closed : progress.close = .ok given)
    (words : List String) :
    level.read progress (("--" ++ option.name) :: words) =
      level.read { given, open? := some (option, none) } words := by
  have characters : ("--" ++ option.name).toList = '-' :: '-' :: option.name.toList := by
    rw [String.toList_append]
    rfl
  rw [read_long (notSubcommand noSubcommands progress _) takes.nonempty characters,
    readLong_option noSubcommands takes closed]
  rfl

/-- A word that begins with a dash is no value, unless it is a dash alone. -/
theorem Level.close_read_dash
    {letter : Char}
    {letters : List Char}
    (dash : word.toList = '-' :: letter :: letters)
    (more : Given) :
    (level.read { given, open? := some (option, none) } [word] >>= fun read => read.1.close) ≠
      .ok more := by
  rw [Level.read.eq_def]
  dsimp only
  rw [if_neg (notSubcommand noSubcommands _ word), dash]
  split
  next => simp [bind, Except.bind, Progress.close]
  next text _ _ =>
    cases outcome : level.readLong { given, open? := some (option, none) } text with
    | error notice => simp [bind, Except.bind]
    | ok next =>
        obtain ⟨_, closed, _⟩ := readLong_eq_ok outcome
        cases closed
  next => simp [bind, Except.bind]
  next noShort => exact absurd rfl (noShort letter letters)

/-- An option with its value, behind all other words, settles the option. -/
theorem Level.readAll_option_eq_ok
    {words : List String}
    (takes : level.Takes option)
    (read : level.readAll words = .ok given)
    (noBreak : "--" ∉ words)
    (noDash : option.kind.check word = .ok () → word.toList.head? ≠ some '-')
    (more : Given) :
    level.readAll (words ++ ["--" ++ option.name, word]) = .ok more ↔
      Progress.settle given option word = .ok more := by
  obtain ⟨⟨after, subcommand?⟩, outcome, closed⟩ := (bind_eq_ok _ _ _).mp read
  obtain rfl := read_of_no_subcommands noSubcommands outcome
  rw [readAll, read_append outcome noBreak, read_option noSubcommands takes closed]
  by_cases dash : ∃ letter letters, word.toList = '-' :: letter :: letters
  · obtain ⟨letter, letters, dash⟩ := dash
    refine iff_of_false (close_read_dash noSubcommands dash more) fun settled => ?_
    exact noDash ((Progress.settle_eq_ok _ _ _ _).mp settled).2.1 (by rw [dash]; rfl)
  · have noDash : ∀ letter letters, word.toList ≠ '-' :: letter :: letters :=
      fun letter letters same => dash ⟨letter, letters, same⟩
    rw [read_value (notSubcommand noSubcommands _ word) rfl noDash]
    rfl

end

/-! ## Looking up values -/

theorem Given.has_eq_false (given : Given) (name : String) :
    given.has name = false ↔ given.value? name = none := by
  rw [Given.has, Option.isSome_eq_false_iff, Option.isNone_iff_eq_none]

@[simp]
theorem Given.value?_cons_self (given : Given) (name word : String) :
    Given.value? ((name, word) :: given) name = some word := by
  simp [Given.value?]

theorem Given.value?_cons_of_ne
    {name other : String}
    (different : other ≠ name)
    (given : Given)
    (word : String) :
    Given.value? ((name, word) :: given) other = given.value? other := by
  rw [Given.value?, List.lookup_cons, beq_false_of_ne different]
  rfl

theorem Given.Checked.check_of_value?
    {level : Level}
    {given : Given}
    {option : OptionSpec}
    {word : String}
    (checked : given.Checked level)
    (takes : level.Takes option)
    (found : given.value? option.name = some word) :
    option.kind.check word = .ok () := by
  obtain ⟨front, back, split, _⟩ := List.lookup_eq_some_iff.mp found
  have member : (option.name, word) ∈ given := by rw [split]; simp
  obtain ⟨other, isOption, sameName, accepted⟩ := checked _ member
  rwa [takes.unique other isOption sameName] at accepted

/-! ## Requests to render -/

/-- A task with the settings that every task has, from the options that have been read. -/
def Request.withOptions (given : Given) (task : Task) : Request :=
  { logLevel := (given.value? "log-level").getD "info"
    config := given.value? "config"
    task }

/-- Only two options are settings of every task. -/
theorem Request.withOptions_cons
    {name : String}
    (notLevel : "log-level" ≠ name)
    (notConfig : "config" ≠ name)
    (given : Given)
    (word : String)
    (task : Task) :
    withOptions ((name, word) :: given) task = withOptions given task := by
  rw [withOptions, withOptions, Given.value?_cons_of_ne notLevel, Given.value?_cons_of_ne notConfig]

/-- The words stand for a request to render, with these options behind the subcommand and
before it. -/
structure RenderWords
    (words rest : List String)
    (inner outer : Given) : Prop where
  top :
    ∃ progress, topLevel.read {} words = .ok (progress, some ("render", rest))
      ∧ progress.close = .ok outer
  rest : renderLevel.readAll rest = .ok inner

theorem Task.ofCheck_ne_render (given : Given) (arguments : RenderArguments) :
    ofCheck given ≠ .ok (.render arguments) := by
  intro made
  obtain ⟨_, _, made⟩ := (bind_eq_ok _ _ _).mp made
  obtain ⟨_, _, made⟩ := (bind_eq_ok _ _ _).mp made
  cases made

theorem Task.ofList_ne_render (given : Given) (arguments : RenderArguments) :
    ofList given ≠ .ok (.render arguments) := by
  intro made
  obtain ⟨_, _, made⟩ := (bind_eq_ok _ _ _).mp made
  cases made

/-- Only one subcommand makes a request to render. -/
theorem readTask_eq_render
    {subcommand : String}
    {words : List String}
    {arguments : RenderArguments}
    {given : Given}
    (read : readTask subcommand words = .ok (.render arguments, given)) :
    subcommand = "render" ∧ renderLevel.readAll words = .ok given
      ∧ Task.ofRender given = .ok (.render arguments) := by
  rw [readTask] at read
  split at read
  next isRender =>
    obtain ⟨inner, found, read⟩ := (bind_eq_ok _ _ _).mp read
    obtain ⟨task, made, same⟩ := (bind_eq_ok _ _ _).mp read
    cases same
    exact ⟨isRender, found, made⟩
  split at read
  next =>
    obtain ⟨inner, _, read⟩ := (bind_eq_ok _ _ _).mp read
    obtain ⟨task, made, same⟩ := (bind_eq_ok _ _ _).mp read
    cases same
    exact absurd made (Task.ofCheck_ne_render given arguments)
  split at read
  next =>
    obtain ⟨inner, _, read⟩ := (bind_eq_ok _ _ _).mp read
    obtain ⟨task, made, same⟩ := (bind_eq_ok _ _ _).mp read
    cases same
    exact absurd made (Task.ofList_ne_render given arguments)
  next => cases read

theorem exists_renderWords
    {words : List String}
    {request : Request}
    {arguments : RenderArguments}
    (read : Request.ofWords words = .ok request)
    (task : request.task = .render arguments) :
    ∃ rest inner outer, RenderWords words rest inner outer
      ∧ Task.ofRender inner = .ok (.render arguments)
      ∧ request = .withOptions (inner ++ outer) (.render arguments) := by
  obtain ⟨⟨progress, subcommand?⟩, top, read⟩ := (bind_eq_ok _ _ _).mp read
  cases subcommand? with
  | none =>
      obtain ⟨_, _, read⟩ := (bind_eq_ok _ _ _).mp read
      cases read
  | some found =>
      obtain ⟨subcommand, rest⟩ := found
      obtain ⟨⟨found, inner⟩, made, read⟩ := (bind_eq_ok _ _ _).mp read
      obtain ⟨outer, closed, same⟩ := (bind_eq_ok _ _ _).mp read
      cases same
      obtain rfl : found = .render arguments := task
      obtain ⟨rfl, readsInner, ofRender⟩ := readTask_eq_render made
      exact ⟨rest, inner, outer, ⟨⟨progress, top, closed⟩, readsInner⟩, ofRender, rfl⟩

/-- The request of words that are read up to the subcommand. -/
theorem Request.ofWords_of_top
    {words rest : List String}
    {progress : Progress}
    {outer : Given}
    (top : topLevel.read {} words = .ok (progress, some ("render", rest)))
    (closed : progress.close = .ok outer) :
    ofWords words =
      (renderLevel.readAll rest >>= fun inner =>
        (Task.ofRender inner).map (withOptions (inner ++ outer))) := by
  rw [ofWords, top]
  simp only [bind, Except.bind, readTask, if_pos, closed]
  cases renderLevel.readAll rest with
  | error notice => rfl
  | ok inner =>
      dsimp only
      cases Task.ofRender inner <;> rfl

/-- An option with its value, behind the words of a request to render. -/
theorem RenderWords.ofWords_option_eq_ok
    {words rest : List String}
    {inner outer : Given}
    {option : OptionSpec}
    {word : String}
    (reads : RenderWords words rest inner outer)
    (noBreak : "--" ∉ words)
    (takes : renderLevel.Takes option)
    (noDash : option.kind.check word = .ok () → word.toList.head? ≠ some '-')
    (request : Request) :
    Request.ofWords (words ++ ["--" ++ option.name, word]) = .ok request ↔
      inner.has option.name = false ∧ option.kind.check word = .ok ()
        ∧ (Task.ofRender ((option.name, word) :: inner)).map
            (.withOptions ((option.name, word) :: inner ++ outer)) = .ok request := by
  obtain ⟨progress, top, closed⟩ := reads.top
  obtain ⟨top, behind⟩ := Level.read_append_of_subcommand top ["--" ++ option.name, word]
  have settles := Level.readAll_option_eq_ok rfl takes reads.rest
    (fun member => noBreak (behind member)) noDash
  rw [Request.ofWords_of_top top closed, bind_eq_ok]
  constructor
  · rintro ⟨more, read, made⟩
    obtain ⟨fresh, accepted, rfl⟩ := (Progress.settle_eq_ok _ _ _ _).mp ((settles more).mp read)
    exact ⟨fresh, accepted, made⟩
  · rintro ⟨fresh, accepted, made⟩
    have settled := (Progress.settle_eq_ok inner _ option word).mpr ⟨fresh, accepted, rfl⟩
    exact ⟨_, (settles _).mpr settled, made⟩

end ReportIndex.Command
