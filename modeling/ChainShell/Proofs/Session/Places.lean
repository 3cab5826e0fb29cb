import ChainShell.Proofs.Course
import ChainShell.Proofs.Session.Failures

namespace ChainShell

variable {World : Type} (host : Host World)

def Builtin.names : List Text :=
  ["cd", "exit", "history"].map (·.toList)

theorem Builtin.ofName?_eq_none_iff {name : Text} : ofName? name = none ↔ name ∉ names := by
  unfold ofName? names
  by_cases cd : name = "cd".toList
  · rw [if_pos cd, cd]
    simp
  · by_cases exit : name = "exit".toList
    · rw [if_neg cd, if_pos exit, exit]
      simp
    · by_cases history : name = "history".toList
      · rw [if_neg cd, if_neg exit, if_pos history, history]
        simp
      · rw [if_neg cd, if_neg exit, if_neg history]
        simpa using ⟨cd, exit, history⟩

theorem Builtin.name_of_history {name : Text} : ofName? name = some .history ↔ name = "history".toList := by
  constructor
  · intro found
    unfold ofName? at found
    split at found
    · cases found
    · split at found
      · cases found
      · split at found
        · assumption
        · cases found
  · rintro rfl
    rfl

/-- The world that calls leave, each made when the one before it has ended. -/
def Host.executeAll (world : World) (requests : List Request) : World :=
  requests.foldl (fun world request => (host.execute world request).1) world

theorem Host.executeAll_append (world : World) (one other : List Request) :
    host.executeAll world (one ++ other) = host.executeAll (host.executeAll world one) other :=
  List.foldl_append ..

/-- What is had of a call: the output of the child, or nothing if there was an error. -/
def returned (result : Except Failure Bytes) : Bytes :=
  result.toOption.getD []

/-- Only a child that came to its end has given its output, and that is all of it. -/
theorem Host.finished_of_execute {world : World} {request : Request} {data : Bytes}
    (returned : (host.execute world request).2.2 = .ok data) :
    ∃ status, (host.run world request).2 = .finished data status := by
  unfold execute at returned
  split at returned
  · exact absurd returned (host.executeUnwaited_ne_ok _ _ _ _)
  · cases completion : (host.run world request).2 with
    | finished output status =>
      simp only [completion, Completion.result, Except.ok.injEq] at returned
      exact ⟨status, by rw [returned]⟩
    | notStarted cause => simp [completion, Completion.result] at returned
    | timedOut written limit => simp [completion, Completion.result] at returned
    | broken written cause => simp [completion, Completion.result] at returned

theorem Host.calls_execute (world : World) (request : Request) :
    Trace.calls (host.execute world request).2.1 = [request] := by
  unfold execute
  split
  · unfold executeUnwaited
    split <;> rfl
  · cases completion : (host.run world request).2 with
    | finished output status =>
      simp only [completion, Completion.note]
      split <;> rfl
    | notStarted cause => simp only [completion]; rfl
    | timedOut written limit => simp only [completion]; rfl
    | broken written cause => simp only [completion]; rfl

namespace Place

def outcome (place : Place World Element) : Outcome World :=
  place.session.step host place.world place.item

def leave (place : Place World Element) : Session × World :=
  ((place.outcome host).session, (place.outcome host).world)

/-- The children that an element calls for. The session's own commands call for none, unless they stand
in a pipe; the second command of a pipe is called for when the first has given its output, with just that
as its input. -/
def calls (place : Place World Element) : List Request :=
  match place.item with
  | .single command =>
    if command.name ∈ Builtin.names then [] else [place.session.request command none]
  | .piped first second =>
    match (place.session.execute host place.world first none).2.2 with
    | .ok data => [place.session.request first none, place.session.request second (some data)]
    | .error _ => [place.session.request first none]

/-- What an element writes: `history` the entries before its own, the other commands of the session
nothing, everything else the output of its last child. -/
def output (place : Place World Element) : Bytes :=
  match place.item with
  | .single command =>
    if command.name = "history".toList then Session.listing place.session.history
    else if command.name ∈ Builtin.names then []
    else returned (place.session.execute host place.world command none).2.2
  | .piped first second =>
    let (later, _, result) := place.session.execute host place.world first none
    match result with
    | .ok data => returned (place.session.execute host later second (some data)).2.2
    | .error _ => []

/-- The directory that an element would leave behind it in this directory: another one only if the element
is a `cd` that stands alone and succeeds. -/
def directory (place : Place World Element) (cwd : Path) : Path :=
  (({ place.session with cwd := cwd }).destination (host.files place.world) place.item).getD cwd

end Place

namespace Session

theorem calls_execute (session : Session) (world : World) (command : Command) (input : Option Bytes) :
    Trace.calls (session.execute host world command input).2.1 = [session.request command input] :=
  host.calls_execute _ _

theorem output_execute (session : Session) (world : World) (command : Command) (input : Option Bytes) :
    Trace.output (session.execute host world command input).2.1 = [] :=
  (host.quiet_execute _ _).output

theorem calls_write (data : Bytes) : Trace.calls (write data) = [] := by
  unfold write
  split <;> rfl

theorem output_write (data : Bytes) : Trace.output (write data) = data := by
  unfold write
  split
  · rename_i empty
    exact (List.isEmpty_iff.1 empty).symm
  · exact List.append_nil data

theorem calls_settle (session : Session) (element : Element) (world : World) (trace : List Event)
    (result : Except Failure Bytes) :
    Trace.calls (session.settle element world trace result).trace = Trace.calls trace := by
  rcases result with (error | fault) | data
  · exact (Trace.calls_append _ _).trans (List.append_nil _)
  · rfl
  · rw [settle, Trace.calls_append, calls_write, List.append_nil]

theorem output_settle (session : Session) (element : Element) (world : World) (trace : List Event)
    (result : Except Failure Bytes) :
    Trace.output (session.settle element world trace result).trace =
      Trace.output trace ++ returned result := by
  rcases result with (error | fault) | data
  · exact Trace.output_append _ _
  · exact (List.append_nil _).symm
  · rw [settle, Trace.output_append, output_write]
    rfl

theorem settle_world (session : Session) (element : Element) (world : World) (trace : List Event)
    (result : Except Failure Bytes) : (session.settle element world trace result).world = world := by
  rcases result with (error | fault) | data <;> rfl

end Session

namespace Place

/-- What is to be said of an element where it is come to: its calls, what it writes, and that the world it
leaves is that which its calls leave. -/
structure Performs (place : Place World Element) : Prop where
  calls : Trace.calls (place.outcome host).trace = place.calls host
  output : Trace.output (place.outcome host).trace = place.output host
  world : (place.outcome host).world = host.executeAll place.world (place.calls host)

theorem performs_external {session : Session} {world : World} {command : Command}
    (external : Builtin.ofName? command.name = none) :
    Performs host ⟨session, world, .single command⟩ := by
  have unlisted := Builtin.ofName?_eq_none_iff.1 external
  have other : command.name ≠ "history".toList := by
    intro same
    rw [Builtin.name_of_history.2 same] at external
    cases external
  have stepped : outcome host ⟨session, world, .single command⟩ =
      (session.record (.single command)).settle (.single command)
        (session.execute host world command none).1 (session.execute host world command none).2.1
        (session.execute host world command none).2.2 := by
    simp only [outcome, Session.step, Session.runSingle, external, Session.execute_record]
  have asked : calls host ⟨session, world, .single command⟩ = [session.request command none] :=
    if_neg unlisted
  have written : output host ⟨session, world, .single command⟩ =
      returned (session.execute host world command none).2.2 :=
    (if_neg other).trans (if_neg unlisted)
  constructor
  · rw [stepped, Session.calls_settle, asked]
    exact session.calls_execute host world command none
  · rw [stepped, Session.output_settle, written, session.output_execute host world command none,
      List.nil_append]
  · rw [stepped, Session.settle_world, asked]
    rfl

/-- The session's own commands leave the world as it is. -/
theorem performs_builtin {session : Session} {world : World} {command : Command} {builtin : Builtin}
    (own : Builtin.ofName? command.name = some builtin) :
    Performs host ⟨session, world, .single command⟩ := by
  have listed : command.name ∈ Builtin.names := by
    refine Decidable.of_not_not fun unlisted => ?_
    rw [Builtin.ofName?_eq_none_iff.2 unlisted] at own
    cases own
  have asked : calls host ⟨session, world, .single command⟩ = [] := if_pos listed
  cases builtin with
  | history =>
    have written : output host ⟨session, world, .single command⟩ = Session.listing session.history :=
      if_pos (Builtin.name_of_history.1 own)
    have stepped : outcome host ⟨session, world, .single command⟩ =
        ⟨session.record (.single command), world, Session.write (Session.listing session.history),
          .completed⟩ := by
      simp only [outcome, Session.step, Session.runSingle, own, Session.record, List.dropLast_concat]
    constructor
    · rw [stepped, asked, Session.calls_write]
    · rw [stepped, written, Session.output_write]
    · rw [stepped, asked]
      rfl
  | cd | exit =>
    have other : command.name ≠ "history".toList := by
      intro same
      rw [Builtin.name_of_history.2 same] at own
      cases own
    have written : output host ⟨session, world, .single command⟩ = [] :=
      (if_neg other).trans (if_pos listed)
    constructor
    · rw [asked]
      simp only [outcome, Session.step, Session.runSingle, own]
      split <;> rfl
    · rw [written]
      simp only [outcome, Session.step, Session.runSingle, own]
      split <;> rfl
    · rw [asked]
      simp only [outcome, Session.step, Session.runSingle, own]
      split <;> rfl

/-- A pipe whose first command gives no output goes no further. -/
theorem performs_unfed {session : Session} {world later : World} {first : Command} {trace : List Event}
    {failure : Failure}
    (ran : session.execute host world first none = (later, trace, .error failure))
    (second : Command) : Performs host ⟨session, world, .piped first second⟩ := by
  have quiet := session.output_execute host world first none
  have called := session.calls_execute host world first none
  rw [ran] at quiet called
  have asked : calls host ⟨session, world, .piped first second⟩ = [session.request first none] := by
    simp only [calls, ran]
  have written : output host ⟨session, world, .piped first second⟩ = [] := by
    simp only [output, ran]
  have left : host.executeAll world [session.request first none] = later := congrArg (·.1) ran
  have stepped : ∃ ending, outcome host ⟨session, world, .piped first second⟩ =
      ⟨session.record (.piped first second), later, trace, ending⟩ := by
    simp only [outcome, Session.step, Session.runPiped, Session.execute_record, ran]
    cases failure with
    | error error => exact ⟨.aborted error, rfl⟩
    | fault fault => exact ⟨.crashed fault, rfl⟩
  obtain ⟨ending, stepped⟩ := stepped
  constructor
  · rw [stepped, asked, called]
  · rw [stepped, written, quiet]
  · rw [stepped, asked, left]

theorem performs_fed {session : Session} {world later : World} {first : Command} {trace : List Event}
    {data : Bytes} (ran : session.execute host world first none = (later, trace, .ok data))
    (second : Command) : Performs host ⟨session, world, .piped first second⟩ := by
  have quiet := session.output_execute host world first none
  have called := session.calls_execute host world first none
  rw [ran] at quiet called
  have quiet' := session.output_execute host later second (some data)
  have called' := session.calls_execute host later second (some data)
  have asked : calls host ⟨session, world, .piped first second⟩ =
      [session.request first none, session.request second (some data)] := by
    simp only [calls, ran]
  have written : output host ⟨session, world, .piped first second⟩ =
      returned (session.execute host later second (some data)).2.2 := by
    simp only [output, ran]
  have left : host.executeAll world [session.request first none] = later := congrArg (·.1) ran
  have stepped : outcome host ⟨session, world, .piped first second⟩ =
      (session.record (.piped first second)).settle (.piped first second)
        (session.execute host later second (some data)).1
        (trace ++ (session.execute host later second (some data)).2.1)
        (session.execute host later second (some data)).2.2 := by
    simp only [outcome, Session.step, Session.runPiped, Session.execute_record, ran]
  constructor
  · rw [stepped, Session.calls_settle, Trace.calls_append, called, called', asked]
    rfl
  · rw [stepped, Session.output_settle, Trace.output_append, quiet, quiet', written]
    rfl
  · rw [stepped, Session.settle_world, asked, ← List.singleton_append, host.executeAll_append, left]
    rfl

theorem performs (place : Place World Element) : Performs host place := by
  obtain ⟨session, world, element⟩ := place
  cases element with
  | single command =>
    cases own : Builtin.ofName? command.name with
    | none => exact performs_external host own
    | some builtin => exact performs_builtin host own
  | piped first second =>
    rcases ran : session.execute host world first none with ⟨later, trace, failure | data⟩
    · exact performs_unfed host ran second
    · exact performs_fed host ran second

end Place

namespace Session

/-- The elements of a chain, each with the session and the world that the elements before it leave. -/
def places (session : Session) (world : World) (chain : List Element) : List (Place World Element) :=
  course (Place.leave host) session world chain

theorem places_cons (session : Session) (world : World) (element : Element) (rest : List Element) :
    session.places host world (element :: rest) = ⟨session, world, element⟩ ::
      (session.step host world element).session.places host (session.step host world element).world rest :=
  rfl

/-- What happens when a chain is run is what happens at its attempted elements, in order. -/
theorem run_trace (session : Session) (world : World) (chain : List Element) :
    (session.run host world chain).trace =
      (session.places host world (session.attempted host world chain)).flatMap
        fun place => (place.outcome host).trace := by
  induction chain generalizing session world with
  | nil => rfl
  | cons element rest ih =>
    by_cases going : (session.step host world element).ending = .completed
    · rw [run_cons_of_completed host going, attempted_cons_of_completed host going, places_cons,
        List.flatMap_cons, ← ih]
      rfl
    · rw [run_cons_of_stopped host going, attempted_cons_of_stopped host going, places_cons,
        List.flatMap_cons]
      exact (List.append_nil _).symm

/-- The attempted elements lead to what the run of the chain leaves. -/
theorem linked_attempted (session : Session) (world : World) (chain : List Element) :
    Linked (Place.leave host) (session, world)
      (session.places host world (session.attempted host world chain))
      ((session.run host world chain).session, (session.run host world chain).world) := by
  induction chain generalizing session world with
  | nil => exact .nil
  | cons element rest ih =>
    by_cases going : (session.step host world element).ending = .completed
    · rw [run_cons_of_completed host going, attempted_cons_of_completed host going, places_cons]
      exact .cons (ih _ _)
    · rw [run_cons_of_stopped host going, attempted_cons_of_stopped host going, places_cons]
      exact .cons .nil

/-- The elements behind the last attempted one make no difference. -/
theorem run_attempted (session : Session) (world : World) (chain : List Element) :
    session.run host world (session.attempted host world chain) = session.run host world chain := by
  induction chain generalizing session world with
  | nil => rfl
  | cons element rest ih =>
    by_cases going : (session.step host world element).ending = .completed
    · rw [attempted_cons_of_completed host going, run_cons_of_completed host going,
        run_cons_of_completed host going, ih]
    · rw [attempted_cons_of_stopped host going, run_cons_of_stopped host going,
        run_cons_of_stopped host going]

end Session

end ChainShell
