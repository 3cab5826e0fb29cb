import ChainShell.Proofs.Loop.Lines
import ChainShell.Proofs.Session.Directory

namespace ChainShell.Loop

variable {World : Type} (host : Host World)

/-- Turns that differ at most in what is said of lines that were given up. -/
structure Turn.Agrees (one other : Turn World) : Prop where
  session : one.session = other.session
  world : one.world = other.world
  trace : Trace.undiscarded one.trace = Trace.undiscarded other.trace
  stop : one.stop = other.stop

namespace Turn.Agrees

theorem refl (turn : Turn World) : Agrees turn turn :=
  ⟨rfl, rfl, rfl, rfl⟩

theorem symm {one other : Turn World} (agree : Agrees one other) : Agrees other one :=
  ⟨agree.session.symm, agree.world.symm, agree.trace.symm, agree.stop.symm⟩

theorem trans {one other third : Turn World} (agree : Agrees one other) (agree' : Agrees other third) :
    Agrees one third :=
  ⟨agree.session.trans agree'.session, agree.world.trans agree'.world, agree.trace.trans agree'.trace,
    agree.stop.trans agree'.stop⟩

theorem output {one other : Turn World} (agree : Agrees one other) :
    Trace.output one.trace = Trace.output other.trace := by
  rw [← Trace.output_undiscarded, agree.trace, Trace.output_undiscarded]

theorem failures {one other : Turn World} (agree : Agrees one other) :
    Trace.failures one.trace = Trace.failures other.trace := by
  rw [← Trace.failures_undiscarded, agree.trace, Trace.failures_undiscarded]

theorem calls {one other : Turn World} (agree : Agrees one other) :
    Trace.calls one.trace = Trace.calls other.trace := by
  rw [← Trace.calls_undiscarded, agree.trace, Trace.calls_undiscarded]

theorem after {one other : Turn World} (agree : Agrees one other) {events events' : List Event}
    (same : Trace.undiscarded events = Trace.undiscarded events') :
    Agrees (one.after events) (other.after events') := by
  refine ⟨agree.session, agree.world, ?_, agree.stop⟩
  simp only [Turn.after, Trace.undiscarded_append, agree.trace, same]

/-- The line that a chain came from matters only to what is said of it. -/
theorem ofRun (line line' : Text) (done : ChainShell.Outcome World) :
    Agrees (.ofRun line done) (.ofRun line' done) := by
  rw [Turn.ofRun, Turn.ofRun]
  split
  · exact refl _
  · refine ⟨rfl, rfl, ?_, rfl⟩
    simp only [Trace.undiscarded_append]
    rfl
  · exact refl _
  · exact refl _

end Turn.Agrees

/-- A chain does what its attempted elements do as lines of their own: the elements behind the last
of them are not run either way. -/
theorem agrees_attempted {chain : List Element} (plain : ∀ element ∈ chain, element.Plain)
    (session : Session) (world : World) (line : Text) :
    Turn.Agrees (overLines host session world ((session.attempted host world chain).map Element.text))
      (.ofRun line (session.run host world chain)) := by
  induction chain generalizing session world with
  | nil => exact .refl _
  | cons element rest ih =>
    rw [List.forall_mem_cons] at plain
    have first := turn_text host plain.1 session world
    by_cases going : (session.step host world element).ending = .completed
    · have alone : turn host session world element.text = ⟨(session.step host world element).session,
          (session.step host world element).world, (session.step host world element).trace, none⟩ := by
        rw [first, Turn.ofRun, going]
      have later := ih plain.2 (session.step host world element).session
        (session.step host world element).world
      rw [Session.attempted_cons_of_completed host going, Session.run_cons_of_completed host going,
        List.map_cons, overLines_cons_of_none host (by rw [alone]), alone, Turn.ofRun_after]
      exact later.after rfl
    · rw [Session.attempted_cons_of_stopped host going, Session.run_cons_of_stopped host going,
        List.map_singleton, overLines_singleton, first]
      exact .ofRun _ _ _

/-- A line may be replaced by lines that agree with it, and so may what follows it. -/
theorem agrees_append_cons {session : Session} {world : World} {entries more rest : List Text}
    {line : Text} (here : Turn.Agrees (overLines host session world entries) (turn host session world line))
    (going : (turn host session world line).stop = none)
    (later : Turn.Agrees
      (overLines host (turn host session world line).session (turn host session world line).world more)
      (overLines host (turn host session world line).session (turn host session world line).world rest)) :
    Turn.Agrees (overLines host session world (entries ++ more))
      (overLines host session world (line :: rest)) := by
  rw [overLines_cons_of_none host going, overLines_append_of_none host (here.stop.trans going), here.session,
    here.world]
  exact later.after here.trace

/-- What a line adds to the history does, line by line, what the line did. -/
theorem exists_entries_of_line (session : Session) (world : World) (line : Text) :
    ∃ entries, (turn host session world line).session.history = session.history ++ entries ∧
      Turn.Agrees (overLines host session world entries) (turn host session world line) := by
  cases read : Chain.parse line with
  | error e =>
    refine ⟨[], ?_, ?_⟩
    · simp only [turn, read, List.append_nil]
    · simp only [turn, read]
      exact ⟨rfl, rfl, rfl, rfl⟩
  | ok chain =>
    refine ⟨(session.attempted host world chain).map Element.text, ?_, ?_⟩
    · rw [turn_of_read host read, Turn.ofRun_session, Session.run_history]
    · rw [turn_of_read host read]
      exact agrees_attempted host (Chain.plain_of_parse read) session world line

/-- What lines add to the history does again what the lines did. -/
theorem exists_entries (session : Session) (world : World) (lines : List Text) :
    ∃ entries, (overLines host session world lines).session.history = session.history ++ entries ∧
      Turn.Agrees (overLines host session world entries) (overLines host session world lines) := by
  induction lines generalizing session world with
  | nil => exact ⟨[], (List.append_nil _).symm, .refl _⟩
  | cons line rest ih =>
    obtain ⟨entries, grown, agree⟩ := exists_entries_of_line host session world line
    cases stop : (turn host session world line).stop with
    | none =>
      obtain ⟨more, grown', agree'⟩ := ih (turn host session world line).session
        (turn host session world line).world
      refine ⟨entries ++ more, ?_, agrees_append_cons host agree stop agree'⟩
      rw [overLines_cons_of_none host stop, ← List.append_assoc, ← grown]
      exact grown'
    | some ending =>
      rw [overLines_cons_of_some host stop]
      exact ⟨entries, grown, agree⟩

/-- The history of a session that has been started is a log of its run: a reader that supplies its
entries and then ends gives the same output, session and world, and the same end. -/
theorem history_replays {Source Log : Type} (world : World) (directory : Text) (limit : Option Binary64)
    (session : Session) (started : Session.start (host.files world) directory limit = .ok session)
    (reader : LineReader Source) (source : Source) (again : LineReader Log) (log : Log) (message : Text)
    (supplied : again.script log =
      ((run host reader session world source).session.history, .endOfInput message)) :
    Trace.output (run host again session world log).trace =
        Trace.output (run host reader session world source).trace ∧
      (run host again session world log).session = (run host reader session world source).session ∧
      (run host again session world log).world = (run host reader session world source).world ∧
      (run host again session world log).ending =
        match (run host reader session world source).ending with
        | .unread _ => .unread (.endOfInput message)
        | ending => ending := by
  have fresh : session.history = [] := by
    rw [Session.start] at started
    split at started <;> cases started
    rfl
  obtain ⟨sameSession, sameWorld, sameTrace, sameEnding⟩ :=
    run_eq_overLines host reader session world source
  obtain ⟨redoneSession, redoneWorld, redoneTrace, redoneEnding⟩ :=
    run_eq_overLines host again session world log
  obtain ⟨entries, grown, agree⟩ := exists_entries host session world (reader.script source).1
  rw [fresh, List.nil_append, ← sameSession] at grown
  rw [supplied, grown] at redoneSession redoneWorld redoneTrace redoneEnding
  refine ⟨?_, ?_, ?_, ?_⟩
  · rw [← Trace.output_unprompted, redoneTrace, agree.output, ← sameTrace, Trace.output_unprompted]
  · rw [redoneSession, agree.session, sameSession]
  · rw [redoneWorld, agree.world, sameWorld]
  · rw [redoneEnding, sameEnding, agree.stop]
    cases stop : (overLines host session world (reader.script source).1).stop with
    | none => rfl
    | some ending =>
      cases ending with
      | exited code => rfl
      | crashed fault => rfl
      | unread failure => exact absurd stop (overLines_stop_ne_unread host _ _ _ failure)

/-- A system whose children count: each writes how many there were before it behind its input. The
program `no` cannot be started. -/
def counting : Host Nat where
  files _ := ⟨[(["home".toList], .directory)]⟩
  run count request :=
    if request.command.name = "no".toList then (count, .notStarted (.program .noEntry))
    else (count + 1, .finished (request.input.getD [] ++ Utf8.encode (Numeral.ofNat count)) 0)

/-- Lines with a malformed one, a command that fails, a pipe that gives up its line, and `exit`. -/
def typed : List Text :=
  ["a ;; c", " no; b|a;no | x;d ", "exit 3; e"].map (·.toList)

def recorded : List Text :=
  ["no", "b | a", "no | x", "exit 3"].map (·.toList)

theorem history_replays_counting :
    let done := run counting .editor ⟨[], [], none⟩ 0 (typed.map .line)
    let again := run counting .editor ⟨[], [], none⟩ 0 (recorded.map .line)
    done.session.history = recorded ∧ Trace.output again.trace = Trace.output done.trace ∧
      again.session = done.session ∧ again.world = done.world ∧ again.ending = .exited 3 := by
  have started := Session.start_text (.root (counting.files 0)) none
  obtain ⟨sameSession, -, -, sameEnding⟩ :=
    run_eq_overLines counting .editor ⟨[], [], none⟩ 0 (typed.map .line)
  rw [LineReader.script_editor] at sameSession sameEnding
  have left : (run counting .editor ⟨[], [], none⟩ 0 (typed.map .line)).session.history = recorded := by
    rw [sameSession]
    decide +kernel
  have ended : (run counting .editor ⟨[], [], none⟩ 0 (typed.map .line)).ending = .exited 3 := by
    rw [sameEnding]
    decide +kernel
  have replayed := history_replays counting 0 ['/'] none ⟨[], [], none⟩ started .editor
    (typed.map .line) .editor (recorded.map .line) [] (by rw [LineReader.script_editor, left])
  rw [ended] at replayed
  exact ⟨left, replayed⟩

end ChainShell.Loop
