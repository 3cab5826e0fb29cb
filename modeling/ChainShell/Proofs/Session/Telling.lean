import ChainShell.Proofs.Session.Run
import ChainShell.Shell

namespace ChainShell

/-- Whether an event is something done rather than something that is only told. -/
def Event.isDeed : Event → Bool
  | .prompted _ | .called _ | .wrote _ => true
  | .exited _ _ | .failed _ _ | .discarded _ _ | .ended _ => false

/-- What is noted in the log of an event, at the level for debugging. -/
def Event.note : Event → Option Text
  | .exited command status =>
    some ("command ".toList ++ command.text ++ " exited with status ".toList ++ Numeral.ofInt status)
  | .failed element error => some (Shell.Console.discarding (Text.quote element.text) error)
  | .discarded line error => some (Shell.Console.discarding ("line ".toList ++ Text.quote line) error)
  | .ended code => some ("exit requested with code ".toList ++ Numeral.ofInt code)
  | .prompted _ | .called _ | .wrote _ => none

/-- A trace without what is only told. -/
def Trace.deeds (trace : List Event) : List Event :=
  trace.filter Event.isDeed

theorem Trace.deeds_append (one other : List Event) : deeds (one ++ other) = deeds one ++ deeds other :=
  List.filter_append ..

theorem Trace.deeds_concat {event : Event} (told : event.isDeed = false) (trace : List Event) :
    deeds (trace ++ [event]) = deeds trace := by
  have none : deeds [event] = [] := List.filter_cons_of_neg (by simp [told])
  rw [deeds_append, none, List.append_nil]

def Outcome.deeds {World : Type} (outcome : Outcome World) : Outcome World :=
  { outcome with trace := Trace.deeds outcome.trace }

/-- Those who are told of a run while it goes on: the log, and, where there are any, a hook for the errors
of elements and a renderer. All of them may look at the session and at the world, and change what they
keep. -/
structure Listeners (World Kept : Type) where
  log : Session → World → Kept → Text → Kept
  onError : Option (Session → World → Kept → Element → ShellError → Kept)
  renderer : Option (Session → World → Kept → Text → Kept)

/-- What is left after a run with listeners. Its trace shows only what was done; what was told is in what
the listeners keep. -/
structure Told (World Kept : Type) extends Outcome World where
  kept : Kept

namespace Listeners

variable {World Kept : Type} (listeners : Listeners World Kept)

/-- Tells of one event: first the log, then the hook or the renderer that it is for. -/
def hear (session : Session) (world : World) (kept : Kept) (event : Event) : Kept :=
  let noted :=
    match event.note with
    | none => kept
    | some message => listeners.log session world kept message
  match event with
  | .failed element error =>
    match listeners.onError with
    | none => noted
    | some hook => hook session world noted element error
  | .discarded _ error =>
    match listeners.renderer with
    | none => noted
    | some render => render session world noted error.message
  | _ => noted

/-- What is kept before and after a trace has been told event by event, each in some session and some
world. -/
inductive Hear : Kept → List Event → Kept → Prop
  | nil {kept} : Hear kept [] kept
  | cons {kept event rest after} (session : Session) (world : World) :
      Hear (listeners.hear session world kept event) rest after → Hear kept (event :: rest) after

variable {listeners}

theorem Hear.append {one other : List Event} {before between after : Kept}
    (first : listeners.Hear before one between) (second : listeners.Hear between other after) :
    listeners.Hear before (one ++ other) after := by
  induction first with
  | nil => exact second
  | cons session world _ ih => exact .cons session world (ih second)

end Listeners

namespace Session

variable {World Kept : Type}

def noteTelling (listeners : Listeners World Kept) (session : Session) (world : World) (kept : Kept)
    (command : Command) : Completion → Kept
  | .finished _ status =>
    if status = 0 then kept else listeners.hear session world kept (.exited command status)
  | _ => kept

def executeTelling (host : Host World) (listeners : Listeners World Kept) (session : Session)
    (world : World) (kept : Kept) (command : Command) (input : Option Bytes) :
    World × Kept × List Event × Except Failure Bytes :=
  let request := session.request command input
  match request.limit.filter Binary64.exceedsWait with
  | some limit =>
    let (world, events, result) := host.executeUnwaited world request limit
    (world, kept, events, result)
  | none =>
    let (world, completion) := host.run world request
    (world, session.noteTelling listeners world kept command completion, [.called request],
      completion.result command.name)

/-- Ends an element that ran a last command: its output is written, its error told. -/
def settleTelling (listeners : Listeners World Kept) (session : Session) (element : Element)
    (world : World) (kept : Kept) (trace : List Event) : Except Failure Bytes → Told World Kept
  | .ok data => ⟨⟨session, world, trace ++ write data, .completed⟩, kept⟩
  | .error (.error e) =>
    ⟨⟨session, world, trace, .completed⟩, listeners.hear session world kept (.failed element (.exec e))⟩
  | .error (.fault fault) => ⟨⟨session, world, trace, .crashed fault⟩, kept⟩

def runSingleTelling (host : Host World) (listeners : Listeners World Kept) (session : Session)
    (world : World) (kept : Kept) (element : Element) (command : Command) : Told World Kept :=
  match Builtin.ofName? command.name with
  | some .cd =>
    match session.target (host.files world) command.args with
    | .ok path => ⟨⟨{ session with cwd := path }, world, [], .completed⟩, kept⟩
    | .error e => ⟨⟨session, world, [], .completed⟩, listeners.hear session world kept (.failed element e)⟩
  | some .exit =>
    match ExitRequest.ofArgs command.args with
    | .code code => ⟨⟨session, world, [], .terminated code⟩, kept⟩
    | .error e =>
      ⟨⟨session, world, [], .completed⟩,
        listeners.hear session world kept (.failed element (.arguments e))⟩
    | .fault fault => ⟨⟨session, world, [], .crashed fault⟩, kept⟩
  | some .history =>
    ⟨⟨session, world, write (listing session.history.dropLast), .completed⟩, kept⟩
  | none =>
    let (world, kept, trace, result) := session.executeTelling host listeners world kept command none
    session.settleTelling listeners element world kept trace result

/-- Runs two commands, the output of the first being the input of the second. -/
def runPipedTelling (host : Host World) (listeners : Listeners World Kept) (session : Session)
    (world : World) (kept : Kept) (element : Element) (first second : Command) : Told World Kept :=
  match session.executeTelling host listeners world kept first none with
  | (world, kept, trace, .ok data) =>
    let (world, kept, more, result) :=
      session.executeTelling host listeners world kept second (some data)
    session.settleTelling listeners element world kept (trace ++ more) result
  | (world, kept, trace, .error (.error e)) => ⟨⟨session, world, trace, .aborted e⟩, kept⟩
  | (world, kept, trace, .error (.fault fault)) => ⟨⟨session, world, trace, .crashed fault⟩, kept⟩

def stepTelling (host : Host World) (listeners : Listeners World Kept) (session : Session)
    (world : World) (kept : Kept) (element : Element) : Told World Kept :=
  match element with
  | .single command => (session.record element).runSingleTelling host listeners world kept element command
  | .piped first second =>
    (session.record element).runPipedTelling host listeners world kept element first second

/-- Runs the elements of a chain in order, up to the first that does not complete. -/
def runTelling (host : Host World) (listeners : Listeners World Kept) (session : Session)
    (world : World) (kept : Kept) : List Element → Told World Kept
  | [] => ⟨⟨session, world, [], .completed⟩, kept⟩
  | element :: rest =>
    let first := session.stepTelling host listeners world kept element
    match first.ending with
    | .completed =>
      let more := runTelling host listeners first.session first.world first.kept rest
      { more with trace := first.trace ++ more.trace }
    | _ => first

end Session

variable {World Kept : Type} {listeners : Listeners World Kept}

/-- A run with listeners does what the run without them does, and they are told of all that it tells. -/
structure Told.Agrees (listeners : Listeners World Kept) (kept : Kept) (told : Told World Kept)
    (outcome : Outcome World) : Prop where
  deeds : told.toOutcome = outcome.deeds
  heard : listeners.Hear kept outcome.trace told.kept

namespace Session

variable (host : Host World) (listeners : Listeners World Kept)

theorem deeds_write (data : Bytes) : Trace.deeds (write data) = write data := by
  rw [write]
  split <;> rfl

theorem hear_write (session : Session) (world : World) (kept : Kept) (data : Bytes) :
    listeners.Hear kept (write data) kept := by
  rw [write]
  split
  · exact .nil
  · exact .cons session world .nil

theorem deeds_note (command : Command) (completion : Completion) :
    Trace.deeds (completion.note command) = [] := by
  cases completion with
  | finished output status =>
    rw [Completion.note]
    split <;> rfl
  | notStarted | timedOut | broken => rfl

theorem hear_note (session : Session) (world : World) (kept : Kept) (command : Command)
    (completion : Completion) : listeners.Hear kept (completion.note command)
      (session.noteTelling listeners world kept command completion) := by
  cases completion with
  | finished output status =>
    rw [Completion.note, noteTelling]
    split
    · exact .nil
    · exact .cons session world .nil
  | notStarted | timedOut | broken => exact .nil

theorem executeTelling_agrees (session : Session) (world : World) (kept : Kept) (command : Command)
    (input : Option Bytes) : ∃ after,
      listeners.Hear kept (session.execute host world command input).2.1 after ∧
      session.executeTelling host listeners world kept command input =
        ((session.execute host world command input).1, after,
          Trace.deeds (session.execute host world command input).2.1,
          (session.execute host world command input).2.2) := by
  cases limited : (session.request command input).limit.filter Binary64.exceedsWait with
  | some limit =>
    simp only [executeTelling, execute, Host.execute, limited, Host.executeUnwaited]
    split <;> exact ⟨kept, .cons session world .nil, rfl⟩
  | none =>
    rcases answered : host.run world (session.request command input) with ⟨after, completion⟩
    simp only [executeTelling, execute, Host.execute, limited, answered]
    have deed (request : Request) :
        Trace.deeds (.called request :: completion.note command) = [.called request] := by
      rw [← List.singleton_append, Trace.deeds_append, deeds_note]
      rfl
    refine ⟨_, .cons session after (hear_note listeners session after kept command completion), ?_⟩
    exact congrArg (fun trace => (after, _, trace, _)) (deed _).symm

theorem settleTelling_agrees {before kept : Kept} {trace : List Event} (session : Session)
    (element : Element) (world : World) (heard : listeners.Hear before trace kept)
    (result : Except Failure Bytes) :
    (session.settleTelling listeners element world kept (Trace.deeds trace) result).Agrees listeners before
      (session.settle element world trace result) := by
  rcases result with (error | fault) | data
  · refine ⟨?_, heard.append (.cons session world .nil)⟩
    rw [settle, Outcome.deeds, Trace.deeds_concat rfl]
    rfl
  · exact ⟨rfl, heard⟩
  · refine ⟨?_, heard.append (hear_write listeners session world kept data)⟩
    simp only [settleTelling, settle, Outcome.deeds, Trace.deeds_append, deeds_write]

theorem runSingleTelling_agrees (session : Session) (world : World) (kept : Kept) (element : Element)
    (command : Command) :
    (session.runSingleTelling host listeners world kept element command).Agrees listeners kept
      (session.runSingle host world element command) := by
  rcases named : Builtin.ofName? command.name with _ | _ | _ | _
  case none =>
    obtain ⟨after, heard, same⟩ := executeTelling_agrees host listeners session world kept command none
    simp only [runSingleTelling, runSingle, named, same]
    exact settleTelling_agrees listeners session element _ heard _
  case some.cd =>
    cases chosen : session.target (host.files world) command.args with
    | ok path =>
      simp only [runSingleTelling, runSingle, named, chosen]
      exact ⟨rfl, .nil⟩
    | error e =>
      simp only [runSingleTelling, runSingle, named, chosen]
      exact ⟨rfl, .cons session world .nil⟩
  case some.exit =>
    cases asked : ExitRequest.ofArgs command.args with
    | code | fault =>
      simp only [runSingleTelling, runSingle, named, asked]
      exact ⟨rfl, .nil⟩
    | error e =>
      simp only [runSingleTelling, runSingle, named, asked]
      exact ⟨rfl, .cons session world .nil⟩
  case some.history =>
    simp only [runSingleTelling, runSingle, named]
    exact ⟨by simp only [Outcome.deeds, deeds_write], hear_write listeners session world kept _⟩

theorem runPipedTelling_agrees (session : Session) (world : World) (kept : Kept) (element : Element)
    (first second : Command) :
    (session.runPipedTelling host listeners world kept element first second).Agrees listeners kept
      (session.runPiped host world element first second) := by
  obtain ⟨between, heard, same⟩ := executeTelling_agrees host listeners session world kept first none
  rw [runPipedTelling, runPiped, same]
  rcases executed : session.execute host world first none with ⟨middle, trace, (error | fault) | data⟩
  · rw [executed] at heard
    exact ⟨rfl, heard⟩
  · rw [executed] at heard
    exact ⟨rfl, heard⟩
  · obtain ⟨after, heardMore, sameMore⟩ :=
      executeTelling_agrees host listeners session middle between second (some data)
    rw [executed] at heard
    simp only [sameMore, ← Trace.deeds_append]
    exact settleTelling_agrees listeners session element _ (heard.append heardMore) _

theorem stepTelling_agrees (session : Session) (world : World) (kept : Kept) (element : Element) :
    (session.stepTelling host listeners world kept element).Agrees listeners kept
      (session.step host world element) := by
  cases element with
  | single command => exact runSingleTelling_agrees host listeners _ world kept _ command
  | piped first second => exact runPipedTelling_agrees host listeners _ world kept _ first second

theorem runTelling_cons_of_completed {session : Session} {world : World} {kept : Kept} {element : Element}
    (completed : (session.stepTelling host listeners world kept element).ending = .completed)
    (rest : List Element) :
    let first := session.stepTelling host listeners world kept element
    let more := first.session.runTelling host listeners first.world first.kept rest
    session.runTelling host listeners world kept (element :: rest) =
      ⟨more.toOutcome.after first.trace, more.kept⟩ := by
  simp only [runTelling, completed, Outcome.after]

theorem runTelling_cons_of_stopped {session : Session} {world : World} {kept : Kept} {element : Element}
    (stopped : (session.stepTelling host listeners world kept element).ending ≠ .completed)
    (rest : List Element) : session.runTelling host listeners world kept (element :: rest) =
      session.stepTelling host listeners world kept element := by
  rw [runTelling]
  cases ending : (session.stepTelling host listeners world kept element).ending with
  | completed => exact absurd ending stopped
  | terminated | aborted | crashed => rfl

theorem runTelling_agrees (session : Session) (world : World) (kept : Kept) (chain : List Element) :
    (session.runTelling host listeners world kept chain).Agrees listeners kept
      (session.run host world chain) := by
  induction chain generalizing session world kept with
  | nil => exact ⟨rfl, .nil⟩
  | cons element rest ih =>
    obtain ⟨deeds, heard⟩ := stepTelling_agrees host listeners session world kept element
    have sameEnding := congrArg Outcome.ending deeds
    -- The rest starts from the same session and the same world; only what is kept is the listeners' own.
    by_cases going : (session.step host world element).ending = .completed
    · have more := ih (session.step host world element).session (session.step host world element).world
        (session.stepTelling host listeners world kept element).kept
      rw [run_cons_of_completed host going, runTelling_cons_of_completed host listeners (sameEnding.trans going)]
      simp only [deeds]
      refine ⟨?_, heard.append more.heard⟩
      simp only [Outcome.deeds, Outcome.after, Trace.deeds_append]
      rw [more.deeds]
      rfl
    · rw [run_cons_of_stopped host going, runTelling_cons_of_stopped host listeners (sameEnding ▸ going)]
      exact ⟨deeds, heard⟩

/-- The log is told of a failing element before the hook is, and the chain goes on. -/
example : (runTelling (.still ⟨[]⟩)
    ⟨fun _ _ kept message => kept ++ [message], some fun _ _ kept _ error => kept ++ [error.message], none⟩
    ⟨[], [], none⟩ () [] [.single ⟨"cd".toList, []⟩, .single ⟨"exit".toList, ["x".toList]⟩]).kept =
      ["discarding 'cd': cd: expected a single path".toList, "cd: expected a single path".toList,
        "discarding 'exit x': exit: x: numeric argument required".toList,
        "exit: x: numeric argument required".toList] := by
  decide +kernel

end Session

end ChainShell
