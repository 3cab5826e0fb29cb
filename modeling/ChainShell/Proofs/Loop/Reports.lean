import ChainShell.Proofs.Loop.Replay
import ChainShell.Proofs.Session.Failures

namespace ChainShell

variable {World : Type} (host : Host World)

/-- The mishaps of a chain that came from a line, each as it is to be told: of elements, in the session
and the world that the elements before them leave. -/
inductive Session.Mishaps (line : Text) : Session → World → List Element → List Report → Prop
  | nil {session world} : Mishaps line session world [] []
  | failed {session world element error rest more} : session.FailsLocally host world element error →
      Mishaps line (session.record element) (session.step host world element).world rest more →
      Mishaps line session world (element :: rest) (.element element error :: more)
  | broken {session world first second error rest} :
      (session.execute host world first none).2.2 = .error (.error error) →
      Mishaps line session world (.piped first second :: rest) [.line line (.exec error)]
  | passed {session world element rest more} : (∀ error, ¬ session.FailsLocally host world element error) →
      (session.step host world element).ending = .completed →
      Mishaps line (session.step host world element).session (session.step host world element).world rest
        more → Mishaps line session world (element :: rest) more
  | stopped {session world element rest} : (session.step host world element).ending ≠ .completed →
      (∀ error, (session.step host world element).ending ≠ .aborted error) →
      Mishaps line session world (element :: rest) []

namespace Loop

/-- The mishaps of lines, up to the one that ends the loop. -/
inductive Mishaps : Session → World → List Text → List Report → Prop
  | nil {session world} : Mishaps session world [] []
  | malformed {session world line error rest more} : Chain.parse line = .error error →
      Mishaps session world rest more →
      Mishaps session world (line :: rest) (.line line (.parse error) :: more)
  | going {session world line chain rest here more} : Chain.parse line = .ok chain →
      session.Mishaps host line world chain here → (turn host session world line).stop = none →
      Mishaps (turn host session world line).session (turn host session world line).world rest more →
      Mishaps session world (line :: rest) (here ++ more)
  | ended {session world line chain rest here ending} : Chain.parse line = .ok chain →
      session.Mishaps host line world chain here → (turn host session world line).stop = some ending →
      Mishaps session world (line :: rest) here

theorem reports_ofRun_after (line : Text) (events : List Event) (done : ChainShell.Outcome World) :
    Trace.reports (Turn.ofRun line (done.after events)).trace =
      Trace.reports events ++ Trace.reports (Turn.ofRun line done).trace := by
  rw [Turn.ofRun_after, Turn.after, Trace.reports_append]

theorem reports_ofRun_of_aborted {line : Text} {done : ChainShell.Outcome World} {error : ExecError}
    (aborted : done.ending = .aborted error) : Trace.reports (Turn.ofRun line done).trace =
      Trace.reports done.trace ++ [.line line (.exec error)] := by
  simp only [Turn.ofRun, aborted, Trace.reports_append]
  rfl

theorem reports_ofRun_of_unbroken {line : Text} {done : ChainShell.Outcome World}
    (unbroken : ∀ error, done.ending ≠ .aborted error) :
    Trace.reports (Turn.ofRun line done).trace = Trace.reports done.trace := by
  rw [Turn.ofRun]
  split
  · rfl
  · rename_i error aborted
    exact absurd aborted (unbroken error)
  · rw [Trace.reports_append]
    exact List.append_nil _
  · rfl

/-- A line whose chain has been run has told of mishaps of the chain. -/
theorem mishaps_ofRun (line : Text) (session : Session) (world : World) (chain : List Element) :
    session.Mishaps host line world chain
      (Trace.reports (Turn.ofRun line (session.run host world chain)).trace) := by
  induction chain generalizing session world with
  | nil => exact .nil
  | cons element rest ih =>
    by_cases failing : ∃ error, session.FailsLocally host world element error
    · obtain ⟨error, fails⟩ := failing
      have spoilt := Session.spoilt_of_failsLocally host fails
      have later := ih (session.step host world element).session (session.step host world element).world
      rw [Session.run_cons_of_completed host (Session.completed_of_failsLocally host fails),
        reports_ofRun_after, spoilt.reports]
      rw [spoilt.session] at later ⊢
      exact .failed fails later
    · -- the element tells of nothing; only its line may, if it gives it up
      rw [not_exists] at failing
      have silent := Session.reports_step_of_not host failing
      by_cases going : (session.step host world element).ending = .completed
      · rw [Session.run_cons_of_completed host going, reports_ofRun_after, silent]
        exact .passed failing going (ih _ _)
      · rw [Session.run_cons_of_stopped host going]
        by_cases broken : ∃ error, (session.step host world element).ending = .aborted error
        · obtain ⟨error, aborted⟩ := broken
          obtain ⟨first, second, rfl, failed⟩ := (Session.step_aborted_iff host).1 aborted
          rw [reports_ofRun_of_aborted aborted, silent]
          exact .broken failed
        · rw [not_exists] at broken
          rw [reports_ofRun_of_unbroken broken, silent]
          exact .stopped going broken

/-- A line tells of every mishap of its chain, and of nothing else. -/
theorem mishaps_ofRun_iff {line : Text} {session : Session} {world : World} {chain : List Element}
    {reports : List Report} : session.Mishaps host line world chain reports ↔
      Trace.reports (Turn.ofRun line (session.run host world chain)).trace = reports := by
  constructor
  · intro mishaps
    induction mishaps with
    | nil => rfl
    | failed fails _ ih =>
      have spoilt := Session.spoilt_of_failsLocally host fails
      rw [Session.run_cons_of_completed host (Session.completed_of_failsLocally host fails),
        reports_ofRun_after, spoilt.reports, spoilt.session, ih]
      rfl
    | @broken session world first second error rest failed =>
      have spoilt := Session.spoilt_of_firstFails host failed second
      have aborted := (Session.step_aborted_iff host).2 ⟨first, second, rfl, failed⟩
      rw [Session.run_cons_of_stopped host (by rw [aborted]; simp), reports_ofRun_of_aborted aborted,
        spoilt.reports]
      rfl
    | passed passes going _ ih =>
      rw [Session.run_cons_of_completed host going, reports_ofRun_after,
        Session.reports_step_of_not host passes, ih]
      rfl
    | stopped stopped unbroken =>
      rw [Session.run_cons_of_stopped host stopped, reports_ofRun_of_unbroken unbroken]
      exact Session.reports_step_of_not host fun error fails =>
        stopped (Session.completed_of_failsLocally host fails)
  · rintro rfl
    exact mishaps_ofRun host line session world chain

theorem mishaps_overLines (session : Session) (world : World) (lines : List Text) :
    Mishaps host session world lines (Trace.reports (overLines host session world lines).trace) := by
  induction lines generalizing session world with
  | nil => exact .nil
  | cons line rest ih =>
    cases read : Chain.parse line with
    | error error =>
      have refused := turn_of_refused host read session world
      rw [overLines_cons_of_none host (by rw [refused]), refused, Turn.after, Trace.reports_append]
      exact .malformed read (ih session world)
    | ok chain =>
      have here := mishaps_ofRun host line session world chain
      rw [← turn_of_read host read] at here
      cases stop : (turn host session world line).stop with
      | none =>
        rw [overLines_cons_of_none host stop, Turn.after, Trace.reports_append]
        exact .going read here stop (ih _ _)
      | some ending =>
        rw [overLines_cons_of_some host stop]
        exact .ended read here stop

theorem mishaps_iff {session : Session} {world : World} {lines : List Text} {reports : List Report} :
    Mishaps host session world lines reports ↔
      Trace.reports (overLines host session world lines).trace = reports := by
  constructor
  · intro mishaps
    induction mishaps with
    | nil => rfl
    | @malformed session world line error rest more read _ ih =>
      have refused := turn_of_refused host read session world
      rw [overLines_cons_of_none host (by rw [refused]), refused, Turn.after, Trace.reports_append, ih]
      rfl
    | going read here stop _ ih =>
      rw [mishaps_ofRun_iff, ← turn_of_read host read] at here
      rw [overLines_cons_of_none host stop, Turn.after, Trace.reports_append, here, ih]
    | ended read here stop =>
      rw [mishaps_ofRun_iff, ← turn_of_read host read] at here
      rw [overLines_cons_of_some host stop, here]
  · rintro rfl
    exact mishaps_overLines host session world lines

/-- An element that fails for itself leaves only its entry in the history and its report, and the next one
runs; a pipe whose first command fails leaves only its entry, and its error ends the chain. A loop tells of
exactly the mishaps of its lines, in order. -/
theorem reports_account_for_mishaps {Source : Type} (reader : LineReader Source) :
    (∀ session world element error, Session.FailsLocally host session world element error →
        session.Spoilt element [.element element error] (session.step host world element) ∧
          ∀ rest, session.run host world (element :: rest) =
            ((session.record element).run host (session.step host world element).world rest).after
              (session.step host world element).trace) ∧
      (∀ (session : Session) world first second error,
        (session.execute host world first none).2.2 = .error (.error error) →
          session.Spoilt (.piped first second) [] (session.step host world (.piped first second)) ∧
            ∀ rest, session.run host world (.piped first second :: rest) =
                session.step host world (.piped first second) ∧
              (session.run host world (.piped first second :: rest)).ending = .aborted error) ∧
      ∀ session world source reports, Mishaps host session world (reader.script source).1 reports ↔
        Trace.reports (run host reader session world source).trace = reports := by
  refine ⟨?_, ?_, ?_⟩
  · intro session world element error fails
    have spoilt := Session.spoilt_of_failsLocally host fails
    refine ⟨spoilt, fun rest => ?_⟩
    rw [Session.run_cons_of_completed host (Session.completed_of_failsLocally host fails), spoilt.session]
  · intro session world first second error failed
    have aborted := (Session.step_aborted_iff host).2 ⟨first, second, rfl, failed⟩
    refine ⟨Session.spoilt_of_firstFails host failed second, fun rest => ?_⟩
    rw [Session.run_cons_of_stopped host (by rw [aborted]; simp)]
    exact ⟨rfl, aborted⟩
  · intro session world source reports
    obtain ⟨-, -, sameTrace, -⟩ := run_eq_overLines host reader session world source
    rw [mishaps_iff, ← sameTrace, Trace.reports_unprompted]

/-- Lines that go wrong in every way. -/
def slips : List Text :=
  ["a ;; c", "no; cd; a | no", "b; no | x; d", "exit x; exit 3; no"].map (·.toList)

/-- A command that cannot be started, and why. -/
def no : Command := ⟨"no".toList, []⟩

def missing : ExecError := .spawn no.name (.program .noEntry)

def told : List Report :=
  [.line "a ;; c".toList (.parse .noCommand), .element (.single no) (.exec missing),
    .element (.single ⟨"cd".toList, []⟩) (.arguments .onePathExpected),
    .element (.piped ⟨['a'], []⟩ no) (.exec missing), .line "b; no | x; d".toList (.exec missing),
    .element (.single ⟨"exit".toList, [['x']]⟩) (.arguments (.notNumeral ['x']))]

theorem reports_account_for_mishaps_counting :
    let fresh : Session := ⟨[], [], none⟩
    fresh.Spoilt (.single no) [.element (.single no) (.exec missing)] (fresh.step counting 0 (.single no)) ∧
      fresh.Spoilt (.piped no no) [] (fresh.step counting 0 (.piped no no)) ∧
      Mishaps counting fresh 0 slips told ∧
      Trace.reports (run counting .editor fresh 0 (slips.map .line)).trace = told := by
  intro fresh
  have failed : (fresh.execute counting 0 no none).2.2 = .error (.error missing) := by decide
  have fails : fresh.FailsLocally counting 0 (.single no) (.exec missing) := .child (by decide) failed
  obtain ⟨passedOver, givenUp, accounts⟩ := reports_account_for_mishaps counting .editor
  have reported : Trace.reports (run counting .editor fresh 0 (slips.map .line)).trace = told := by
    rw [← Trace.reports_unprompted, (run_eq_overLines counting .editor fresh 0 _).2.2.1,
      LineReader.script_editor]
    decide +kernel
  have mishaps := (accounts fresh 0 (slips.map .line) told).2 reported
  rw [LineReader.script_editor] at mishaps
  exact ⟨(passedOver fresh 0 _ _ fails).1, (givenUp fresh 0 no no missing failed).1, mishaps, reported⟩

end Loop

end ChainShell
