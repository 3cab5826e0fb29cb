import ChainShell.Proofs.Loop.Exit
import ChainShell.Proofs.Loop.Telling
import ChainShell.Proofs.Shell.Start

namespace ChainShell

theorem Trace.transcript_deeds (trace : List Event) : transcript (deeds trace) = transcript trace :=
  view_filter rfl transcript_append (fun event told => by cases event <;> first | rfl | cases told) trace

theorem Trace.calls_deeds (trace : List Event) : calls (deeds trace) = calls trace :=
  view_filter rfl calls_append (fun event told => by cases event <;> first | rfl | cases told) trace

namespace Shell

variable {World : Type}

/-- Those who write to standard error: the log, and if errors are reported, the renderer of elements'
errors and of lines that are given up. -/
def Console.listeners (World : Type) (console : Console) : Listeners World Text where
  log _ _ written message := written ++ console.debug message
  onError :=
    if console.reportErrors then
      some fun _ _ written element error =>
        written ++ Diagnostics.render console.columns (elementReport element error.kind error.message)
    else none
  renderer :=
    if console.reportErrors then
      some fun _ _ written message => written ++ Diagnostics.render console.columns message
    else none

namespace Console

theorem hear_listeners (console : Console) (session : Session) (world : World) (written : Text)
    (event : Event) :
    (console.listeners World).hear session world written event = written ++ console.event event := by
  cases event with
  | failed element error | discarded line error =>
    by_cases reporting : console.reportErrors = true
    · simp only [Listeners.hear, listeners, Event.note, event, report, reporting, if_true, List.append_assoc]
    · simp only [Listeners.hear, listeners, Event.note, event, report, if_neg reporting, List.append_nil]
  | exited command status | ended code => rfl
  | prompted | called | wrote => exact (List.append_nil written).symm

/-- What they have written of a trace is what the console makes of its events. -/
theorem written_of_hear {console : Console} {before after : Text} {trace : List Event}
    (heard : (console.listeners World).Hear before trace after) :
    after = before ++ trace.flatMap console.event := by
  induction heard with
  | nil => rw [List.flatMap_nil, List.append_nil]
  | cons session world _ ih => rw [ih, hear_listeners, List.flatMap_cons, List.append_assoc]

end Console

/-- What a shell leaves, and does meanwhile, is what a loop with listeners leaves and does that write to
standard error as they are told; at its end the input's failure is added. -/
structure Outcome.Follows {Source : Type} (outcome : Outcome World) (console : Console)
    (told : Loop.Told World Source Text) : Prop where
  exitCode : outcome.exitCode = Shell.exitCode told.ending
  crash : outcome.crash = crash? told.ending
  session : outcome.session = some told.session
  world : outcome.world = told.world
  output : outcome.output = Trace.transcript told.trace
  calls : Trace.calls outcome.trace = Trace.calls told.trace
  errors : outcome.errors = told.kept ++ console.ending told.ending

theorem ofLoop_follows {Source : Type} (host : Host World) (reader : LineReader Source) (console : Console)
    (session : Session) (world : World) (source : Source) :
    (ofLoop console (Loop.run host reader session world source)).Follows console
      (Loop.runTelling host (console.listeners World) reader session world [] source) := by
  obtain ⟨deeds, heard⟩ :=
    Loop.runTelling_agrees host (console.listeners World) reader session world [] source
  have written := Console.written_of_hear heard
  rw [List.nil_append] at written
  constructor
  case output => rw [deeds]; exact (Trace.transcript_deeds _).symm
  case calls => rw [deeds]; exact (Trace.calls_deeds _).symm
  case errors => rw [written, deeds]; rfl
  all_goals rw [deeds]; rfl

def Outcome.unsaid (outcome : Outcome World) : Outcome World :=
  { outcome with errors := [] }

theorem ofLoop_unsaid {Source : Type} (console console' : Console) (done : Loop.Outcome World Source) :
    (ofLoop console done).unsaid = (ofLoop console' done).unsaid := by
  simp only [Outcome.unsaid, ofLoop]

/-- Settings that differ at most in what is reported and logged, and how. -/
structure SameWork (one other : Settings) : Prop where
  prompt : one.prompt = other.prompt
  lineEditor : one.lineEditor = other.lineEditor
  commandTimeout : one.commandTimeout = other.commandTimeout

/-- Starts in the same place with the same input; variables and terminal may differ. -/
structure SameInput (one other : Start) : Prop where
  directory : one.directory = other.directory
  input : one.input = other.input
  editor : one.editor = other.editor

section Same

variable (host : Host World) (world : World) {start start' : Start} {settings settings' : Settings}

theorem runSession_unsaid (input : SameInput start start') (work : SameWork settings settings')
    (console console' : Console) (session : Session) :
    (runSession host world start settings console session).unsaid =
      (runSession host world start' settings' console' session).unsaid := by
  rw [runSession, runSession, work.lineEditor, work.prompt, input.input, input.editor]
  split
  · exact ofLoop_unsaid ..
  · exact ofLoop_unsaid ..

theorem runSettings_unsaid (input : SameInput start start') (work : SameWork settings settings')
    (known : (threshold? settings).isSome = true) (known' : (threshold? settings').isSome = true) :
    (runSettings host world start settings).unsaid = (runSettings host world start' settings').unsaid := by
  obtain ⟨threshold, level⟩ := Option.isSome_iff_exists.1 known
  obtain ⟨threshold', level'⟩ := Option.isSome_iff_exists.1 known'
  rw [runSettings_of_level level, runSettings_of_level level', input.directory, work.commandTimeout]
  cases Session.start (host.files world) (Path.text start'.directory) settings'.commandTimeout with
  | error e => rfl
  | ok session => exact runSession_unsaid host world input work _ _ session

end Same

/-- Reporting and logging change what is on standard error and nothing else. Whoever listens to a chain or
to a loop, it does what it does when others listen or nobody does, and they are told of all that its trace
tells, in order; a shell is a loop whose listeners write to standard error. So shells whose settings
differ only in reporting and logging, the thresholds being names of levels, give the same output,
calls, session, world, code and crash for the same input. -/
theorem reporting_changes_errors_only (host : Host World) :
    (∀ (Kept Kept' : Type) (one : Listeners World Kept) (other : Listeners World Kept') (kept : Kept)
        (kept' : Kept') (session : Session) (world : World) (chain : List Element),
      (session.runTelling host one world kept chain).toOutcome =
          (session.runTelling host other world kept' chain).toOutcome ∧
        (session.runTelling host one world kept chain).Agrees one kept (session.run host world chain)) ∧
    (∀ (Kept Kept' Source : Type) (one : Listeners World Kept) (other : Listeners World Kept') (kept : Kept)
        (kept' : Kept') (reader : LineReader Source) (session : Session) (world : World) (source : Source),
      (Loop.runTelling host one reader session world kept source).toOutcome =
          (Loop.runTelling host other reader session world kept' source).toOutcome ∧
        (Loop.runTelling host one reader session world kept source).Agrees one kept
          (Loop.run host reader session world source) ∧
        ∀ console : Console, (ofLoop console (Loop.run host reader session world source)).Follows console
          (Loop.runTelling host (console.listeners World) reader session world [] source)) ∧
    ∀ (world : World) (start start' : Start) (settings settings' : Settings), SameInput start start' →
      SameWork settings settings' →
      (threshold? settings).isSome = true → (threshold? settings').isSome = true →
      (runSettings host world start settings).unsaid = (runSettings host world start' settings').unsaid ∧
        (Settings.load (host.files world) start.directory start.environment = .ok settings →
          Settings.load (host.files world) start'.directory start'.environment = .ok settings' →
          (run host world start).unsaid = (run host world start').unsaid) := by
  refine ⟨?_, ?_, ?_⟩
  · intro Kept Kept' one other kept kept' session world chain
    have agrees := session.runTelling_agrees host one world kept chain
    have agrees' := session.runTelling_agrees host other world kept' chain
    exact ⟨agrees.deeds.trans agrees'.deeds.symm, agrees⟩
  · intro Kept Kept' Source one other kept kept' reader session world source
    have agrees := Loop.runTelling_agrees host one reader session world kept source
    have agrees' := Loop.runTelling_agrees host other reader session world kept' source
    refine ⟨agrees.deeds.trans agrees'.deeds.symm, agrees, fun console => ?_⟩
    exact ofLoop_follows host reader console session world source
  · intro world start start' settings settings' input work known known'
    have same := runSettings_unsaid host world input work known known'
    refine ⟨same, fun loaded loaded' => ?_⟩
    rw [run_of_loaded loaded, run_of_loaded loaded', same]

/-- Everything is reported and logged, in the rich layout. -/
def verbose : Settings :=
  { Settings.default with reportErrors := true, logLevel := "trace".toList, logProfile := .rich }

theorem reporting_changes_errors_only_verbose :
    (runSettings (.still ⟨[]⟩) () (startWithLevel []) verbose).unsaid =
        (runSettings (.still ⟨[]⟩) () (startWithLevel []) .default).unsaid ∧
      (run (.still ⟨[]⟩) () (startWithLevel "debug".toList)).unsaid =
        (run (.still ⟨[]⟩) () (startWithLevel "Error".toList)).unsaid := by
  obtain ⟨-, -, shells⟩ := reporting_changes_errors_only (.still ⟨[]⟩)
  have input (level level' : Text) : SameInput (startWithLevel level) (startWithLevel level') :=
    ⟨rfl, rfl, rfl⟩
  have reported := shells () _ _ verbose .default (input [] []) ⟨rfl, rfl, rfl⟩ (by decide +kernel)
    (by decide +kernel)
  have logged := shells () _ _ { Settings.default with logLevel := "debug".toList }
    { Settings.default with logLevel := "Error".toList } (input "debug".toList "Error".toList)
    ⟨rfl, rfl, rfl⟩ (by decide +kernel) (by decide +kernel)
  exact ⟨reported.1, logged.2 (load_startWithLevel _) (load_startWithLevel _)⟩

end Shell

end ChainShell
