import ChainShell.Proofs.Event
import ChainShell.Session

namespace ChainShell

def Outcome.after {World : Type} (events : List Event) (outcome : Outcome World) : Outcome World :=
  { outcome with trace := events ++ outcome.trace }

@[simp] theorem Outcome.after_session {World : Type} (events : List Event) (outcome : Outcome World) :
    (outcome.after events).session = outcome.session := rfl

@[simp] theorem Outcome.after_world {World : Type} (events : List Event) (outcome : Outcome World) :
    (outcome.after events).world = outcome.world := rfl

@[simp] theorem Outcome.after_trace {World : Type} (events : List Event) (outcome : Outcome World) :
    (outcome.after events).trace = events ++ outcome.trace := rfl

@[simp] theorem Outcome.after_ending {World : Type} (events : List Event) (outcome : Outcome World) :
    (outcome.after events).ending = outcome.ending := rfl

theorem Outcome.after_after {World : Type} (earlier later : List Event) (outcome : Outcome World) :
    (outcome.after later).after earlier = outcome.after (earlier ++ later) := by
  simp only [after, List.append_assoc]

/-- A system whose files stay as they are and whose children write nothing. -/
def Host.still (files : FileTree) : Host Unit where
  files _ := files
  run world _ := (world, .finished [] 0)

namespace Host

variable {World : Type}

theorem unprompted_execute (host : Host World) (world : World) (request : Request) :
    Trace.unprompted (host.execute world request).2.1 = (host.execute world request).2.1 := by
  rw [execute]
  split
  · rw [executeUnwaited]
    split <;> rfl
  · obtain ⟨world', completion⟩ := host.run world request
    cases completion with
    | finished output status =>
      simp only [Completion.note]
      split <;> rfl
    | notStarted | timedOut | broken => rfl

end Host

namespace Session

variable {World : Type} (host : Host World)

/-- The directory that an element changes to, if it is a `cd` that succeeds. -/
def destination (session : Session) (files : FileTree) : Element → Option Path
  | .single command =>
    if Builtin.ofName? command.name = some .cd then (session.target files command.args).toOption else none
  | .piped _ _ => none

theorem settle_session (session : Session) (element : Element) (world : World) (trace : List Event)
    (result : Except Failure Bytes) : (session.settle element world trace result).session = session := by
  rcases result with (_ | _) | _ <;> rfl

theorem runSingle_session (session : Session) (world : World) (element : Element) (command : Command) :
    (session.runSingle host world element command).session =
      { session with
        cwd := (session.destination (host.files world) (.single command)).getD session.cwd } := by
  rw [runSingle, destination]
  split
  · rename_i cd
    rw [if_pos cd]
    cases session.target (host.files world) command.args <;> rfl
  · rename_i exit
    rw [if_neg (by simp [exit])]
    cases ExitRequest.ofArgs command.args <;> rfl
  · rename_i history
    rw [if_neg (by simp [history])]
    rfl
  · rename_i external
    rw [if_neg (by simp [external])]
    exact settle_session _ _ _ _ _

theorem runPiped_session (session : Session) (world : World) (element : Element) (first second : Command) :
    (session.runPiped host world element first second).session = session := by
  rw [runPiped]
  split
  · exact settle_session _ _ _ _ _
  · rfl
  · rfl

/-- All that an element does to a session. -/
theorem step_session (session : Session) (world : World) (element : Element) :
    (session.step host world element).session =
      ⟨(session.destination (host.files world) element).getD session.cwd,
        session.history ++ [element.text], session.limit⟩ := by
  cases element with
  | single command => exact runSingle_session host _ world _ command
  | piped first second => exact runPiped_session host _ world _ first second

theorem step_history (session : Session) (world : World) (element : Element) :
    (session.step host world element).session.history = session.history ++ [element.text] := by
  rw [step_session]

theorem run_cons_of_completed {session : Session} {world : World} {element : Element}
    (completed : (session.step host world element).ending = .completed) (rest : List Element) :
    session.run host world (element :: rest) =
      ((session.step host world element).session.run host (session.step host world element).world
        rest).after (session.step host world element).trace := by
  rw [run]
  simp only [completed, Outcome.after]

theorem run_cons_of_stopped {session : Session} {world : World} {element : Element}
    (stopped : (session.step host world element).ending ≠ .completed) (rest : List Element) :
    session.run host world (element :: rest) = session.step host world element := by
  rw [run]
  cases ending : (session.step host world element).ending with
  | completed => exact absurd ending stopped
  | terminated code => rfl
  | aborted error => rfl
  | crashed fault => rfl

theorem run_singleton (session : Session) (world : World) (element : Element) :
    session.run host world [element] = session.step host world element := by
  by_cases completed : (session.step host world element).ending = .completed
  · rw [run_cons_of_completed host completed]
    simp only [run, Outcome.after, List.append_nil, ← completed]
  · exact run_cons_of_stopped host completed []

/-- Two chains in a row are one chain, if the first runs to its end. -/
theorem run_append_of_completed {session : Session} {world : World} {chain : List Element}
    (completed : (session.run host world chain).ending = .completed) (more : List Element) :
    session.run host world (chain ++ more) =
      ((session.run host world chain).session.run host (session.run host world chain).world
        more).after (session.run host world chain).trace := by
  induction chain generalizing session world with
  | nil => rfl
  | cons element rest ih =>
    by_cases going : (session.step host world element).ending = .completed
    · rw [run_cons_of_completed host going, Outcome.after_ending] at completed
      rw [List.cons_append, run_cons_of_completed host going, run_cons_of_completed host going, ih completed,
        Outcome.after_after]
      rfl
    · rw [run_cons_of_stopped host going] at completed
      exact absurd completed going

theorem run_append_of_stopped {session : Session} {world : World} {chain : List Element}
    (stopped : (session.run host world chain).ending ≠ .completed) (more : List Element) :
    session.run host world (chain ++ more) = session.run host world chain := by
  induction chain generalizing session world with
  | nil => exact absurd rfl stopped
  | cons element rest ih =>
    by_cases going : (session.step host world element).ending = .completed
    · rw [run_cons_of_completed host going] at stopped
      rw [List.cons_append, run_cons_of_completed host going, run_cons_of_completed host going, ih stopped]
    · rw [List.cons_append, run_cons_of_stopped host going, run_cons_of_stopped host going]

/-- The elements of a chain that are attempted: those up to the first that does not complete. -/
def attempted (session : Session) (world : World) : List Element → List Element
  | [] => []
  | element :: rest =>
    let first := session.step host world element
    match first.ending with
    | .completed => element :: attempted first.session first.world rest
    | _ => [element]

theorem attempted_cons_of_completed {session : Session} {world : World} {element : Element}
    (completed : (session.step host world element).ending = .completed) (rest : List Element) :
    session.attempted host world (element :: rest) =
      element :: (session.step host world element).session.attempted host
        (session.step host world element).world rest := by
  rw [attempted]
  simp only [completed]

theorem attempted_cons_of_stopped {session : Session} {world : World} {element : Element}
    (stopped : (session.step host world element).ending ≠ .completed) (rest : List Element) :
    session.attempted host world (element :: rest) = [element] := by
  rw [attempted]
  cases ending : (session.step host world element).ending with
  | completed => exact absurd ending stopped
  | terminated code => rfl
  | aborted error => rfl
  | crashed fault => rfl

theorem attempted_of_completed {session : Session} {world : World} {chain : List Element}
    (completed : (session.run host world chain).ending = .completed) :
    session.attempted host world chain = chain := by
  induction chain generalizing session world with
  | nil => rfl
  | cons element rest ih =>
    by_cases going : (session.step host world element).ending = .completed
    · rw [run_cons_of_completed host going, Outcome.after_ending] at completed
      rw [attempted_cons_of_completed host going, ih completed]
    · rw [run_cons_of_stopped host going] at completed
      exact absurd completed going

theorem attempted_append_of_stopped {session : Session} {world : World} {front : List Element}
    {element : Element} (before : (session.run host world front).ending = .completed)
    (stopped : ((session.run host world front).session.step host (session.run host world front).world
      element).ending ≠ .completed) (skipped : List Element) :
    session.attempted host world (front ++ element :: skipped) = front ++ [element] := by
  induction front generalizing session world with
  | nil => exact attempted_cons_of_stopped host stopped skipped
  | cons first rest ih =>
    by_cases going : (session.step host world first).ending = .completed
    · rw [run_cons_of_completed host going] at before stopped
      rw [List.cons_append, attempted_cons_of_completed host going, ih before stopped]
      rfl
    · rw [run_cons_of_stopped host going] at before
      exact absurd before going

/-- A chain that does not run to its end is cut at the element that stops it. -/
theorem exists_stop {session : Session} {world : World} {chain : List Element}
    (stopped : (session.run host world chain).ending ≠ .completed) :
    ∃ front element skipped, chain = front ++ element :: skipped ∧
      (session.run host world front).ending = .completed ∧
      ((session.run host world front).session.step host (session.run host world front).world element).ending =
        (session.run host world chain).ending := by
  induction chain generalizing session world with
  | nil => exact absurd rfl stopped
  | cons first rest ih =>
    by_cases going : (session.step host world first).ending = .completed
    · rw [run_cons_of_completed host going, Outcome.after_ending] at stopped
      obtain ⟨front, element, skipped, cut, before, ended⟩ := ih stopped
      refine ⟨first :: front, element, skipped, by rw [cut]; rfl, ?_, ?_⟩
      · rw [run_cons_of_completed host going, Outcome.after_ending, before]
      · simp only [run_cons_of_completed host going]
        exact ended
    · refine ⟨[], first, rest, rfl, rfl, ?_⟩
      rw [run_cons_of_stopped host going]
      rfl

/-- The history grows by the texts of the attempted elements, in order. -/
theorem run_history (session : Session) (world : World) (chain : List Element) :
    (session.run host world chain).session.history =
      session.history ++ (session.attempted host world chain).map Element.text := by
  induction chain generalizing session world with
  | nil => simp [run, attempted]
  | cons element rest ih =>
    by_cases going : (session.step host world element).ending = .completed
    · rw [run_cons_of_completed host going, attempted_cons_of_completed host going, Outcome.after_session,
        ih, step_history, List.map_cons, List.append_assoc, List.singleton_append]
    · rw [run_cons_of_stopped host going, attempted_cons_of_stopped host going, step_history]
      rfl

/-- The run of a chain comes to an element, in the session and the world that the elements before it
leave. -/
inductive Reaches : Session → World → List Element → Session → World → Element → Prop
  | here {session world element rest} : Reaches session world (element :: rest) session world element
  | later {session world first rest here there element} :
      (session.step host world first).ending = .completed →
      Reaches (session.step host world first).session (session.step host world first).world rest here there
        element → Reaches session world (first :: rest) here there element

/-- A run that does not complete ends as the first element does that did not complete. -/
theorem run_ending_iff {session : Session} {world : World} {chain : List Element} {ending : Ending}
    (stop : ending ≠ .completed) : (session.run host world chain).ending = ending ↔
      ∃ here there element, Reaches host session world chain here there element ∧
        (here.step host there element).ending = ending := by
  constructor
  · intro ended
    induction chain generalizing session world with
    | nil => exact absurd ended.symm stop
    | cons element rest ih =>
      by_cases going : (session.step host world element).ending = .completed
      · rw [run_cons_of_completed host going] at ended
        obtain ⟨here, there, last, reached, lastEnded⟩ := ih ended
        exact ⟨here, there, last, .later going reached, lastEnded⟩
      · rw [run_cons_of_stopped host going] at ended
        exact ⟨session, world, element, .here, ended⟩
  · rintro ⟨here, there, element, reached, ended⟩
    induction reached with
    | here => rw [run_cons_of_stopped host (by rwa [ended]), ended]
    | later going _ ih =>
      rw [run_cons_of_completed host going]
      exact ih ended

theorem unprompted_write (data : Bytes) : Trace.unprompted (write data) = write data := by
  rw [write]
  split <;> rfl

theorem unprompted_settle {session : Session} {element : Element} {world : World} {trace : List Event}
    {result : Except Failure Bytes} (clean : Trace.unprompted trace = trace) :
    Trace.unprompted (session.settle element world trace result).trace =
      (session.settle element world trace result).trace := by
  rcases result with (error | fault) | data
  · rw [settle, Trace.unprompted_append, clean]
    rfl
  · exact clean
  · rw [settle, Trace.unprompted_append, clean, unprompted_write]

theorem unprompted_step (session : Session) (world : World) (element : Element) :
    Trace.unprompted (session.step host world element).trace = (session.step host world element).trace := by
  cases element with
  | single command =>
    rw [step, runSingle]
    split
    · split <;> rfl
    · split <;> rfl
    · exact unprompted_write _
    · exact unprompted_settle (host.unprompted_execute _ _)
  | piped first second =>
    have clean := host.unprompted_execute world
      ((session.record (.piped first second)).request first none)
    rw [step, runPiped]
    split <;> rename_i executed <;> rw [execute] at executed <;> rw [executed] at clean
    · refine unprompted_settle ?_
      rw [Trace.unprompted_append, clean]
      exact congrArg _ (host.unprompted_execute _ _)
    · exact clean
    · exact clean

theorem unprompted_run (session : Session) (world : World) (chain : List Element) :
    Trace.unprompted (session.run host world chain).trace = (session.run host world chain).trace := by
  induction chain generalizing session world with
  | nil => rfl
  | cons element rest ih =>
    by_cases going : (session.step host world element).ending = .completed
    · rw [run_cons_of_completed host going, Outcome.after_trace, Trace.unprompted_append, ih,
        unprompted_step]
    · rw [run_cons_of_stopped host going, unprompted_step]

end Session

end ChainShell
