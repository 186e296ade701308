import ReportIndex.Command.Run
import ReportIndex.Proofs.Command.Outcome
import ReportIndex.Proofs.Workspace.Operation

/-!
Contract: what tasks read from files, as functions of the file system.

Owns:
- the settings and the catalog that a file system holds;
- the agreement of loading with these functions: no file is changed, nothing is
  printed.

Does not own: what is done with settings and catalog.
-/

namespace ReportIndex

/-! ## Functions of the file system -/

/-- The text of the file at a path. -/
def Files.readText (files : Files) (path : String) : Except IoError String :=
  match files.read path with
  | .error error => .error error
  | .ok bytes =>
      match String.fromUTF8? bytes with
      | some text => .ok text
      | none => .error .notUtf8

/-- The catalog in the file at a path. -/
def Catalog.inFiles (files : Files) (path : String) : Except LoadError Catalog :=
  match files.readText path with
  | .error error => .error (.unreadable path error)
  | .ok text => ofFileText path text

/-- The settings in the file at a path, which are the default ones unless the
file can be read and used. -/
def Config.inFiles (files : Files) (path : String) : Config :=
  match files.kind? path, files.readText path with
  | some _, .ok document =>
      match ofToml document with
      | .ok config => config
      | .error _ => {}
  | _, _ => {}

/-- The settings of a request, by the path that it names. -/
def Files.settings (files : Files) (path? : Option String) : Except Command.TaskError Config :=
  match path? with
  | some path =>
      if files.kind? path == some .file then
        .ok (Config.inFiles files path)
      else .error (.configNotFound path)
  | none =>
      let directory := "/" ++ "/".intercalate files.workingDirectory
      .ok (Config.inFiles files (Path.join directory Config.fileName))

/-- The path of the file that settings are looked for in. -/
def Files.settingsPath (files : Files) (path? : Option String) : String :=
  path?.getD (Path.join ("/" ++ "/".intercalate files.workingDirectory) Config.fileName)

theorem Files.settings_eq_ok (files : Files) (path? : Option String) (config : Config) :
    files.settings path? = .ok config ↔
      (∀ path, path? = some path → files.kind? path = some .file)
        ∧ Config.inFiles files (files.settingsPath path?) = config := by
  cases path? with
  | none => simp [settings, settingsPath]
  | some path =>
      by_cases isFile : files.kind? path = some .file <;> simp [settings, settingsPath, isFile]

/-! ## Files that hold a text -/

section

variable {files : Files} {path text : String}

theorem fromUTF8?_toUTF8 (text : String) : String.fromUTF8? text.toUTF8 = some text := by
  simp [String.fromUTF8?, String.fromUTF8, text.isValidUTF8]

theorem Files.readText_of_read (read : files.read path = .ok text.toUTF8) :
    files.readText path = .ok text := by
  rw [readText, read]
  simp only [fromUTF8?_toUTF8]

theorem Files.kind?_of_read
    {content : ByteArray}
    (read : files.read path = .ok content) :
    files.kind? path = some .file := by
  obtain ⟨reaches, present, noSlash⟩ := (read_eq_ok files path content).mp read
  have found := (find_eq_ok files path _ _).mpr ⟨reaches, rfl, present, .inr noSlash⟩
  rw [kind?, found]
  rfl

theorem Files.exists_read_of_kind?
    (isFile : files.kind? path = some .file) :
    ∃ content, files.read path = .ok content := by
  rw [kind?] at isFile
  rw [read]
  cases found : files.find path with
  | error error =>
      rw [found] at isFile
      cases isFile
  | ok result =>
      obtain ⟨location, content | _⟩ := result
      · exact ⟨content, rfl⟩
      · rw [found] at isFile
        cases isFile

theorem Config.inFiles_of_read
    {config : Config}
    (read : files.read path = .ok text.toUTF8)
    (parsed : ofToml text = .ok config) :
    inFiles files path = config := by
  rw [inFiles, Files.kind?_of_read read, Files.readText_of_read read]
  simp only [parsed]

/-- Settings that cannot be used are the default ones. -/
theorem Config.inFiles_of_useless
    {fault : DocumentFault}
    (read : files.read path = .ok text.toUTF8)
    (useless : ofToml text = .error fault) :
    inFiles files path = {} := by
  rw [inFiles, Files.kind?_of_read read, Files.readText_of_read read]
  simp only [useless]

theorem Catalog.inFiles_of_read
    {catalog : Catalog}
    (read : files.read path = .ok text.toUTF8)
    (parsed : ofFileText path text = .ok catalog) :
    inFiles files path = .ok catalog := by
  rw [inFiles, Files.readText_of_read read]
  exact parsed

theorem Catalog.exists_read_of_inFiles
    {catalog : Catalog}
    (found : inFiles files path = .ok catalog) :
    ∃ content, files.read path = .ok content := by
  rw [inFiles, Files.readText] at found
  cases read : files.read path with
  | ok content => exact ⟨content, rfl⟩
  | error error =>
      rw [read] at found
      cases found

/-- Settings that cannot be read are the default ones. -/
theorem Config.inFiles_of_unread (unread : ∀ content, files.read path ≠ .ok content) :
    inFiles files path = {} := by
  rw [inFiles, Files.readText]
  cases read : files.read path with
  | ok content => exact absurd read (unread content)
  | error error => cases files.kind? path <;> rfl

end

section

variable
  {earlier later : Files}
  {path : String}
  (same : ∀ content, later.read path = .ok content ↔ earlier.read path = .ok content)

include same

theorem Files.kind?_eq_file_congr :
    later.kind? path = some .file ↔ earlier.kind? path = some .file := by
  constructor
  · intro isFile
    obtain ⟨content, read⟩ := exists_read_of_kind? isFile
    exact kind?_of_read ((same content).mp read)
  · intro isFile
    obtain ⟨content, read⟩ := exists_read_of_kind? isFile
    exact kind?_of_read ((same content).mpr read)

theorem Config.inFiles_congr : inFiles later path = inFiles earlier path := by
  cases before : earlier.read path with
  | ok content =>
      have after := (same content).mpr before
      rw [inFiles, inFiles, Files.kind?_of_read after, Files.kind?_of_read before,
        Files.readText, Files.readText, after, before]
  | error error =>
      have unread : ∀ content, earlier.read path ≠ .ok content := by simp [before]
      rw [inFiles_of_unread unread,
        inFiles_of_unread fun content read => unread content ((same content).mp read)]

theorem Catalog.inFiles_congr
    {catalog : Catalog}
    (found : inFiles earlier path = .ok catalog) :
    inFiles later path = .ok catalog := by
  obtain ⟨content, before⟩ := exists_read_of_inFiles found
  rw [← found, inFiles, inFiles, Files.readText, Files.readText, (same content).mpr before, before]

end

/-! ## Agreement -/

theorem run_readText (path : String) (surroundings : Surroundings) :
    (Workspace.readText path : Simulation _).run surroundings =
      (surroundings.files.readText path, surroundings) := by
  have answered : (Workspace.readBytes path : Simulation _).run surroundings =
      (surroundings.files.read path, surroundings) := rfl
  rw [Workspace.readText, Simulation.run_bind_of answered, Files.readText]
  cases surroundings.files.read path with
  | error error => rfl
  | ok bytes =>
      dsimp only
      cases String.fromUTF8? bytes <;> rfl

theorem run_catalogLoad (path : String) (surroundings : Surroundings) :
    ∃ after,
      (Catalog.load path : Simulation _).run surroundings =
          (Catalog.inFiles surroundings.files path, after)
        ∧ surroundings.Becomes surroundings.files "" after := by
  rw [Catalog.load, Simulation.run_bind_of (run_readText path surroundings), Catalog.inFiles]
  cases surroundings.files.readText path with
  | error error => exact ⟨_, rfl, .silent _ _ _⟩
  | ok text =>
      dsimp only
      cases Catalog.ofFileText path text with
      | error error => exact ⟨_, rfl, .silent _ _ _⟩
      | ok catalog => exact ⟨_, rfl, .silent _ _ _⟩

theorem run_configLoad (path : String) (surroundings : Surroundings) :
    ∃ after,
      (Config.load path : Simulation _).run surroundings =
          (Config.inFiles surroundings.files path, after)
        ∧ surroundings.Becomes surroundings.files "" after := by
  have answered : (Workspace.exists? path : Simulation _).run surroundings =
      ((surroundings.files.kind? path).isSome, surroundings) := rfl
  rw [Config.load, Simulation.run_bind_of answered, Config.inFiles]
  cases surroundings.files.kind? path with
  | none => exact ⟨_, rfl, .silent _ _ _⟩
  | some kind =>
      rw [if_neg (by simp), Simulation.run_bind_of (run_readText path surroundings)]
      cases surroundings.files.readText path with
      | error error => exact ⟨_, rfl, .silent _ _ _⟩
      | ok document =>
          dsimp only
          cases Config.ofToml document with
          | error fault => exact ⟨_, rfl, .silent _ _ _⟩
          | ok config => exact ⟨_, rfl, .silent _ _ _⟩

/-- A file of settings that can be used is loaded without a word in the log, and one that
cannot leaves one there. -/
theorem run_configLoad_of_read
    {path document : String}
    {start : Surroundings}
    (read : start.files.read path = .ok document.toUTF8)
    (config : Config) :
    (Config.load path : Simulation _).run start = (config, start) ↔
      Config.ofToml document = .ok config := by
  have answered : (Workspace.exists? path : Simulation _).run start = (true, start) := by
    have isFile : (Workspace.exists? path : Simulation _).run start =
      ((start.files.kind? path).isSome, start) := rfl
    rw [isFile, Files.kind?_of_read read]
    rfl
  have readText := run_readText path start
  rw [Files.readText_of_read read] at readText
  rw [Config.load, Simulation.run_bind_of answered, if_neg (by simp),
    Simulation.run_bind_of readText]
  dsimp only
  cases Config.ofToml document with
  | ok settings =>
      have loaded : (pure settings : Simulation Config).run start = (settings, start) := rfl
      rw [loaded, Except.ok.injEq]
      exact ⟨fun same => (Prod.mk.inj same).1, fun same => same ▸ rfl⟩
  | error fault =>
      refine iff_of_false (fun same => ?_) (by simp)
      have log := congrArg List.length (congrArg (fun result => result.2.log) same)
      have longer : ∀ event, (start.log ++ [event]).length ≠ start.log.length := by simp
      exact longer _ log

namespace Command

theorem run_loadConfig (path? : Option String) (surroundings : Surroundings) :
    ∃ after,
      (loadConfig path? : TaskM Simulation Config).run.run surroundings =
          (surroundings.files.settings path?, after)
        ∧ surroundings.Becomes surroundings.files "" after := by
  cases path? with
  | none =>
      obtain ⟨after, loaded, becomes⟩ := run_configLoad
        (Path.join ("/" ++ "/".intercalate surroundings.files.workingDirectory) Config.fileName)
        surroundings
      have answered : (Workspace.workingDirectory : Simulation _).run surroundings =
        ("/" ++ "/".intercalate surroundings.files.workingDirectory, surroundings) := rfl
      refine ⟨after, ?_, becomes⟩
      rw [loadConfig, run_bind_ok (run_lift answered), run_lift loaded]
      rfl
  | some path =>
      have answered : (Workspace.isFile path : Simulation _).run surroundings =
        (surroundings.files.kind? path == some .file, surroundings) := rfl
      rw [loadConfig, run_bind_ok (run_lift answered), Files.settings]
      split
      next =>
        obtain ⟨after, loaded, becomes⟩ := run_configLoad path surroundings
        exact ⟨after, run_lift loaded, becomes⟩
      next => exact ⟨_, rfl, .silent _ _ _⟩

theorem run_loadCatalog (path : String) (surroundings : Surroundings) :
    ∃ after,
      (loadCatalog path : TaskM Simulation Catalog).run.run surroundings =
          ((Catalog.inFiles surroundings.files path).mapError (TaskError.catalog path), after)
        ∧ surroundings.Becomes surroundings.files "" after := by
  obtain ⟨after, loaded, becomes⟩ := run_catalogLoad path surroundings
  refine ⟨after, ?_, becomes⟩
  rw [loadCatalog, run_bind_ok (run_lift loaded)]
  cases Catalog.inFiles surroundings.files path <;> rfl

end Command

end ReportIndex
