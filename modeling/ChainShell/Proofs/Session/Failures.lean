import ChainShell.Proofs.Event
import ChainShell.Proofs.Session.Faults

namespace ChainShell

variable {World : Type} (host : Host World)

/-- All that a child leaves in the trace is that it was called, and its status unless that is zero. -/
theorem Host.quiet_execute (world : World) (request : Request) :
    Trace.Quiet (host.execute world request).2.1 := by
  rw [execute]
  split
  · rw [executeUnwaited]
    split <;> exact ⟨rfl, rfl⟩
  · obtain ⟨later, completion⟩ := host.run world request
    cases completion with
    | finished output status =>
      simp only [Completion.note]
      split <;> exact ⟨rfl, rfl⟩
    | notStarted | timedOut | broken => exact ⟨rfl, rfl⟩

namespace Session

/-- The errors that stay with their element: those of the session's own commands, of a child that stands
alone, and of the second command of a pipe. -/
inductive FailsLocally (session : Session) (world : World) : Element → ShellError → Prop
  | cd {command error} : Builtin.ofName? command.name = some .cd →
      session.target (host.files world) command.args = .error error →
      FailsLocally session world (.single command) error
  | exit {command error} : Builtin.ofName? command.name = some .exit →
      ExitRequest.ofArgs command.args = .error error →
      FailsLocally session world (.single command) (.arguments error)
  | child {command error} : Builtin.ofName? command.name = none →
      (session.execute host world command none).2.2 = .error (.error error) →
      FailsLocally session world (.single command) (.exec error)
  | second {first second later trace data error} :
      session.execute host world first none = (later, trace, .ok data) →
      (session.execute host later second (some data)).2.2 = .error (.error error) →
      FailsLocally session world (.piped first second) (.exec error)

/-- A session looks up directories and runs children alike before and after it has recorded an element. -/
@[simp] theorem target_record (session : Session) (element : Element) (files : FileTree) (args : List Text) :
    (session.record element).target files args = session.target files args := rfl

@[simp] theorem execute_record (session : Session) (element : Element) (world : World) (command : Command)
    (input : Option Bytes) : (session.record element).execute host world command input =
      session.execute host world command input := rfl

/-- What comes of an element that fails: its entry in the history, no output, and these reports. -/
structure Spoilt (session : Session) (element : Element) (told : List Report) (done : Outcome World) :
    Prop where
  session : done.session = session.record element
  output : Trace.output done.trace = []
  reports : Trace.reports done.trace = told

/-- An element that fails for itself is recorded, told of once, and passed over. -/
theorem step_of_failsLocally {session : Session} {world : World} {element : Element} {error : ShellError}
    (fails : session.FailsLocally host world element error) :
    ∃ later trace, Trace.Quiet trace ∧ session.step host world element =
      ⟨session.record element, later, trace ++ [.failed element error], .completed⟩ := by
  cases fails with
  | cd isCd failed =>
    refine ⟨world, [], ⟨rfl, rfl⟩, ?_⟩
    simp only [step, runSingle, isCd, target_record, failed, List.nil_append]
  | exit isExit failed =>
    refine ⟨world, [], ⟨rfl, rfl⟩, ?_⟩
    simp only [step, runSingle, isExit, failed, List.nil_append]
  | @child command error external failed =>
    refine ⟨(session.execute host world command none).1, _,
      host.quiet_execute world (session.request command none), ?_⟩
    simp only [step, runSingle, external, execute_record]
    rw [failed]
    rfl
  | @second first second later trace data error ran failed =>
    have quiet := host.quiet_execute world (session.request first none)
    rw [← execute, ran] at quiet
    refine ⟨(session.execute host later second (some data)).1, _,
      quiet.append (host.quiet_execute later (session.request second (some data))), ?_⟩
    simp only [step, runPiped, execute_record, ran]
    rw [failed]
    rfl

/-- A pipe whose first command fails is recorded, writes nothing and hands its error on. -/
theorem step_of_firstFails {session : Session} {world : World} {first : Command} {error : ExecError}
    (failed : (session.execute host world first none).2.2 = .error (.error error)) (second : Command) :
    ∃ later trace, Trace.Quiet trace ∧ session.step host world (.piped first second) =
      ⟨session.record (.piped first second), later, trace, .aborted error⟩ := by
  have quiet := host.quiet_execute world (session.request first none)
  rw [← execute] at quiet
  rcases ran : session.execute host world first none with ⟨later, trace, result⟩
  rw [ran] at quiet failed
  refine ⟨later, trace, quiet, ?_⟩
  simp only [step, runPiped, execute_record, ran]
  rw [show result = .error (.error error) from failed]

theorem spoilt_of_failsLocally {session : Session} {world : World} {element : Element} {error : ShellError}
    (fails : session.FailsLocally host world element error) :
    session.Spoilt element [.element element error] (session.step host world element) := by
  obtain ⟨later, trace, quiet, stepped⟩ := step_of_failsLocally host fails
  rw [stepped]
  refine ⟨rfl, ?_, ?_⟩
  · rw [Trace.output_append, quiet.output]
    rfl
  · rw [Trace.reports_append, quiet.reports]
    rfl

theorem completed_of_failsLocally {session : Session} {world : World} {element : Element}
    {error : ShellError} (fails : session.FailsLocally host world element error) :
    (session.step host world element).ending = .completed := by
  obtain ⟨later, trace, -, stepped⟩ := step_of_failsLocally host fails
  rw [stepped]

theorem spoilt_of_firstFails {session : Session} {world : World} {first : Command} {error : ExecError}
    (failed : (session.execute host world first none).2.2 = .error (.error error)) (second : Command) :
    session.Spoilt (.piped first second) [] (session.step host world (.piped first second)) := by
  obtain ⟨later, trace, quiet, stepped⟩ := step_of_firstFails host failed second
  rw [stepped]
  exact ⟨rfl, quiet.output, quiet.reports⟩

theorem reports_write (data : Bytes) : Trace.reports (write data) = [] := by
  rw [write]
  split <;> rfl

theorem reports_settle {session : Session} {element : Element} {world : World} {trace : List Event}
    {result : Except Failure Bytes} (quiet : Trace.Quiet trace)
    (passes : ∀ error, result ≠ .error (.error error)) :
    Trace.reports (session.settle element world trace result).trace = [] := by
  rcases result with (error | fault) | data
  · exact absurd rfl (passes error)
  · exact quiet.reports
  · rw [settle, Trace.reports_append, quiet.reports, reports_write]
    rfl

/-- An element that does not fail for itself is not told of. -/
theorem reports_step_of_not {session : Session} {world : World} {element : Element}
    (passes : ∀ error, ¬ session.FailsLocally host world element error) :
    Trace.reports (session.step host world element).trace = [] := by
  cases element with
  | single command =>
    rw [step, runSingle]
    split
    · rename_i isCd
      split
      · rfl
      · rename_i error failed
        exact absurd (.cd isCd failed) (passes error)
    · rename_i isExit
      split
      · rfl
      · rename_i error failed
        exact absurd (.exit isExit failed) (passes (.arguments error))
      · rfl
    · exact reports_write _
    · rename_i external
      refine reports_settle (host.quiet_execute world (session.request command none)) fun error failed => ?_
      exact passes (.exec error) (.child external failed)
  | piped first second =>
    have quiet := host.quiet_execute world (session.request first none)
    rw [← execute] at quiet
    rw [step, runPiped, execute_record]
    split <;> rename_i ran <;> rw [ran] at quiet
    · rename_i later trace data
      have more := host.quiet_execute later (session.request second (some data))
      refine reports_settle (quiet.append more) fun error failed => ?_
      exact passes (.exec error) (.second ran failed)
    · exact quiet.reports
    · exact quiet.reports

end Session

end ChainShell
