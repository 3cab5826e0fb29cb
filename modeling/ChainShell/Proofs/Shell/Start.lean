import ChainShell.Proofs.Log.Configuration
import ChainShell.Proofs.Loop.Lines
import ChainShell.Proofs.Session.Directory
import ChainShell.Shell

namespace ChainShell

theorem Loop.prompting_prefix {World Source : Type} (host : Host World) (reader : LineReader Source)
    (session : Session) (world : World) (source : Source) :
    reader.prompting <+: (run host reader session world source).trace := by
  rcases answered : reader.read source with ⟨failure | line, rest⟩
  · have failed := run_of_failure host answered session world
    exact failed ▸ List.prefix_rfl
  · rw [run_of_line host answered]
    cases stop : (turn host session world line).stop with
    | none =>
      simp only [stop, Outcome.after]
      exact (List.prefix_append ..).trans (List.prefix_append ..)
    | some ending =>
      simp only [stop]
      exact List.prefix_append ..

namespace Shell

variable {World : Type} {host : Host World} {world : World} {start : Start} {settings : Settings}

/-- The name of the threshold as it is looked up. -/
def levelName (settings : Settings) : Text :=
  Text.upperCase settings.logLevel

/-- The threshold, if there is a level of that name. -/
def threshold? (settings : Settings) : Option Log.Level :=
  Log.Level.ofName? (levelName settings)

/-- What is set up before the first read if the name is that of a level. -/
def consoleFor (start : Start) (settings : Settings) (threshold : Log.Level) : Console where
  log := ⟨[⟨threshold, settings.logProfile⟩], some (levelName settings, settings.logProfile)⟩
  reportErrors := settings.reportErrors
  columns := start.columns

/-- A shell comes to its first read if all that it does is done by the loop over its reader. -/
def ComesToRead (host : Host World) (world : World) (start : Start) (settings : Settings) : Prop :=
  ∃ console session, run host world start = runSession host world start settings console session

theorem runSession_session_isSome (console : Console) (session : Session) :
    (runSession host world start settings console session).session.isSome = true := by
  rw [runSession]
  split <;> rfl

/-- The prompt of the plain reader comes before everything else; an editor shows its own. -/
theorem prompt_prefix_runSession (console : Console) (session : Session) :
    (if settings.lineEditor then [] else [.prompted settings.prompt]) <+:
      (runSession host world start settings console session).trace := by
  rw [runSession]
  split
  · exact List.nil_prefix
  · exact Loop.prompting_prefix host (LineReader.chunked settings.prompt) session world _

theorem not_comesToRead_of_notStarted {crash : Crash}
    (failed : run host world start = notStarted world crash) :
    ¬ ComesToRead host world start settings := by
  rintro ⟨console, session, same⟩
  have some := congrArg (fun outcome => outcome.session.isSome) same
  rw [failed, runSession_session_isSome] at some
  cases some

theorem runSettings_of_unknown (unknown : threshold? settings = none) :
    runSettings host world start settings = notStarted world (.logging ⟨levelName settings⟩) := by
  rw [runSettings, Log.configure_of_unknown unknown (by simp [Log.State.initial])]
  rfl

theorem runSettings_of_level {threshold : Log.Level}
    (known : threshold? settings = some threshold) :
    runSettings host world start settings =
      match Session.start (host.files world) (Path.text start.directory) settings.commandTimeout with
      | .error e => notStarted world (.directory e)
      | .ok session => runSession host world start settings (consoleFor start settings threshold) session := by
  rw [runSettings, Log.configure_of_level known (by simp [Log.State.initial])]
  rfl

theorem run_of_loaded
    (loaded : Settings.load (host.files world) start.directory start.environment = .ok settings) :
    run host world start = runSettings host world start settings := by
  rw [run, loaded]

/-- A start in an empty root directory, with one variable, for the threshold's name. -/
def startWithLevel (level : Text) : Start where
  directory := []
  environment := [("PIPESH_LOG_LEVEL".toList, level)]
  input := Utf8.encode "exit 3\n".toList
  editor := []
  columns := 80

theorem fileBytes_empty : Settings.fileBytes ⟨[]⟩ [] = [] := by
  have noFile : (⟨[]⟩ : FileTree).follow [] Settings.fileName = .error .noEntry := by
    have steps : FileTree.steps Settings.fileName = [Settings.fileName] := by decide
    rw [FileTree.follow, if_neg (by decide), if_neg (by decide +kernel), steps, FileTree.walk]
    rfl
  rw [Settings.fileBytes, noFile]

/-- Every text is accepted as the name of the threshold. -/
theorem load_startWithLevel (level : Text) :
    Settings.load ⟨[]⟩ (startWithLevel level).directory (startWithLevel level).environment =
      .ok { Settings.default with logLevel := level } := by
  have noText : Utf8.decode [] = .ok [] := by
    rw [Utf8.decode, Utf8.decodeChunk, Utf8.decodeFrom]
    rfl
  rw [Settings.load, startWithLevel, fileBytes_empty, noText]
  rfl

/-- A shell whose settings are accepted comes to its first read if and only if the threshold's name is a
level's, in any letter case, and the path of the directory leads somewhere, as a canonical one does. It
is then all set up: one sink with that threshold and layout, and a session in the directory with an
empty history and the time limit; the prompt is the first thing that happens. Without a level nothing is
started, and nothing happens. -/
theorem comesToRead_iff
    (loaded : Settings.load (host.files world) start.directory start.environment = .ok settings) :
    (ComesToRead host world start settings ↔
        (∃ threshold, threshold? settings = some threshold) ∧
        ∃ session, Session.start (host.files world) (Path.text start.directory) settings.commandTimeout =
          .ok session) ∧
      (ComesToRead host world start settings →
        (if settings.lineEditor then [] else [.prompted settings.prompt]) <+:
          (run host world start).trace) ∧
      (threshold? settings = none →
        run host world start = notStarted world (.logging ⟨levelName settings⟩)) ∧
      ∀ threshold, threshold? settings = some threshold →
        (host.files world).Canonical start.directory →
        run host world start = runSession host world start settings (consoleFor start settings threshold)
          ⟨start.directory, [], settings.commandTimeout⟩ := by
  have unknown : threshold? settings = none →
      run host world start = notStarted world (.logging ⟨levelName settings⟩) := fun absent =>
    (run_of_loaded loaded).trans (runSettings_of_unknown absent)
  refine ⟨⟨fun reads => ?_, ?_⟩, ?_, unknown, fun threshold known canonical => ?_⟩
  -- Neither of the two ways to fail leaves a session, as a loop does.
  · cases level : threshold? settings with
    | none => exact absurd reads (not_comesToRead_of_notStarted (unknown level))
    | some threshold =>
      refine ⟨⟨threshold, rfl⟩, ?_⟩
      cases started : Session.start (host.files world) (Path.text start.directory) settings.commandTimeout with
      | ok session => exact ⟨session, rfl⟩
      | error e =>
        have failed : run host world start = notStarted world (.directory e) := by
          rw [run_of_loaded loaded, runSettings_of_level level, started]
        exact absurd reads (not_comesToRead_of_notStarted failed)
  · rintro ⟨⟨threshold, known⟩, session, started⟩
    refine ⟨consoleFor start settings threshold, session, ?_⟩
    rw [run_of_loaded loaded, runSettings_of_level known, started]
  · rintro ⟨console, session, same⟩
    rw [same]
    exact prompt_prefix_runSession console session
  · rw [run_of_loaded loaded, runSettings_of_level known, Session.start_text canonical]

/-- The level may be named in any letter case. -/
theorem comesToRead_debug :
    let start := startWithLevel "debug".toList
    let settings := { Settings.default with logLevel := "debug".toList }
    Settings.load ⟨[]⟩ start.directory start.environment = .ok settings ∧
      run (.still ⟨[]⟩) () start = runSession (.still ⟨[]⟩) () start settings
        ⟨⟨[⟨.debug, .default⟩], some ("DEBUG".toList, .default)⟩, false, 80⟩ ⟨[], [], none⟩ ∧
      [.prompted "> ".toList] <+: (run (.still ⟨[]⟩) () start).trace := by
  have loaded := load_startWithLevel "debug".toList
  have comes := @comesToRead_iff Unit (.still ⟨[]⟩) () _ _ loaded
  have setUp := comes.2.2.2 .debug (by decide +kernel) (.root ⟨[]⟩)
  exact ⟨loaded, setUp, comes.2.1 ⟨_, _, setUp⟩⟩

/-- A name that is no level's is accepted, in a directory that exists, and nothing is read. -/
theorem not_comesToRead_nope :
    let start := startWithLevel "NOPE".toList
    let settings := { Settings.default with logLevel := "NOPE".toList }
    Settings.load ⟨[]⟩ start.directory start.environment = .ok settings ∧
      FileTree.Canonical ⟨[]⟩ start.directory ∧
      run (.still ⟨[]⟩) () start = notStarted () (.logging ⟨"NOPE".toList⟩) ∧
      ¬ ComesToRead (.still ⟨[]⟩) () start settings := by
  have loaded := load_startWithLevel "NOPE".toList
  have failed : run (.still ⟨[]⟩) () (startWithLevel "NOPE".toList) =
      notStarted () (.logging ⟨"NOPE".toList⟩) :=
    (run_of_loaded loaded).trans (runSettings_of_unknown (by decide +kernel))
  exact ⟨loaded, .root ⟨[]⟩, failed, not_comesToRead_of_notStarted failed⟩

end Shell

end ChainShell
