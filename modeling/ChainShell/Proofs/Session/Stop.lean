import ChainShell.Proofs.Session.Places

namespace ChainShell

variable {World : Type} (host : Host World)

/-- The first argument of an `exit` that stands alone has no more digits than are converted to a number. -/
def Element.ShortExit : Element → Prop
  | .single command => command.name = "exit".toList → ∀ argument, command.args.head? = some argument →
      (argument.filter Numeral.isDigit).length ≤ numeralLimit
  | .piped _ _ => True

namespace Place

/-- What stops a run by design: an `exit` that stands alone and is granted its code, and a pipe whose first
command fails. -/
inductive Halts (place : Place World Element) : Ending → Prop
  | exit {command code} : place.item = .single command → command.name = "exit".toList →
      ExitRequest.ofArgs command.args = .code code → Halts place (.terminated code)
  | first {first second error} : place.item = .piped first second →
      (place.session.execute host place.world first none).2.2 = .error (.error error) →
      Halts place (.aborted error)

/-- Nothing recovers from what an element does where it is come to. -/
def Faults (place : Place World Element) (fault : Fault) : Prop :=
  place.session.Faults host place.world place.item fault

inductive Stops (place : Place World Element) : Ending → Prop
  | halts {ending} : place.Halts host ending → Stops place ending
  | faults {fault} : place.Faults host fault → Stops place (.crashed fault)

end Place

namespace Session

theorem settle_ne_terminated (session : Session) (element : Element) (world : World) (trace : List Event)
    (result : Except Failure Bytes) (code : Int) :
    (session.settle element world trace result).ending ≠ .terminated code := by
  intro terminated
  rcases result with (_ | _) | _ <;> cases terminated

theorem step_terminated_iff {session : Session} {world : World} {element : Element} {code : Int} :
    (session.step host world element).ending = .terminated code ↔
      ∃ command, element = .single command ∧ command.name = "exit".toList ∧
        ExitRequest.ofArgs command.args = .code code := by
  constructor
  · intro terminated
    cases element with
    | single command =>
      refine ⟨command, rfl, ?_⟩
      rw [step, runSingle] at terminated
      split at terminated
      · split at terminated <;> cases terminated
      · rename_i own
        refine ⟨Builtin.name_of_exit own, ?_⟩
        split at terminated
        · rename_i granted
          cases terminated
          exact granted
        · cases terminated
        · cases terminated
      · cases terminated
      · exact absurd terminated (settle_ne_terminated _ _ _ _ _ _)
    | piped first second =>
      rw [step, runPiped] at terminated
      split at terminated
      · exact absurd terminated (settle_ne_terminated _ _ _ _ _ _)
      · cases terminated
      · cases terminated
  · rintro ⟨command, rfl, named, granted⟩
    have own : Builtin.ofName? command.name = some .exit := by
      rw [named]
      rfl
    simp only [step, runSingle, own, granted]

end Session

namespace Place

/-- What stops a run at a place is how its element ends, unless it completes. -/
theorem stops_iff {place : Place World Element} {ending : Ending} :
    place.Stops host ending ↔ (place.outcome host).ending = ending ∧ ending ≠ .completed := by
  obtain ⟨session, world, element⟩ := place
  constructor
  · intro stops
    cases stops with
    | halts halts =>
      cases halts with
      | exit single named granted =>
        exact ⟨(Session.step_terminated_iff host).2 ⟨_, single, named, granted⟩, by simp⟩
      | first piped failed =>
        exact ⟨(Session.step_aborted_iff host).2 ⟨_, _, piped, failed⟩, by simp⟩
    | faults faults => exact ⟨(Session.step_crashed_iff host).2 faults, by simp⟩
  · rintro ⟨rfl, stopped⟩
    cases ended : (outcome host ⟨session, world, element⟩).ending with
    | completed => exact absurd ended stopped
    | terminated code =>
      obtain ⟨command, rfl, named, granted⟩ := (Session.step_terminated_iff host).1 ended
      exact .halts (.exit rfl named granted)
    | aborted error =>
      obtain ⟨first, second, rfl, failed⟩ := (Session.step_aborted_iff host).1 ended
      exact .halts (.first rfl failed)
    | crashed fault => exact .faults ((Session.step_crashed_iff host).1 ended)

theorem completed_iff {place : Place World Element} :
    (place.outcome host).ending = .completed ↔ ∀ ending, ¬ place.Stops host ending := by
  constructor
  · intro completed ending stops
    obtain ⟨ended, stopped⟩ := (stops_iff host).1 stops
    exact stopped (ended.symm.trans completed)
  · intro going
    refine Decidable.of_not_not fun stopped => ?_
    exact going _ ((stops_iff host).2 ⟨rfl, stopped⟩)

/-- An element does not both halt and fault. -/
theorem not_faults_of_halts {place : Place World Element} {ending : Ending} (halts : place.Halts host ending)
    (fault : Fault) : ¬ place.Faults host fault := by
  intro faults
  have ended := ((stops_iff host).1 (.halts halts)).1
  have crashed := ((stops_iff host).1 (.faults faults)).1
  rw [ended] at crashed
  cases halts <;> cases crashed

end Place

namespace Session

theorem attempted_of_cut {session : Session} {world : World} {chain : List Element} {count : Nat}
    {stop : Option Ending} (cut : Cut (Place.Stops host) (session.places host world chain) count stop) :
    session.attempted host world chain = chain.take count ∧
      (session.run host world chain).ending = stop.getD .completed := by
  induction chain generalizing session world count stop with
  | nil =>
    cases cut
    exact ⟨rfl, rfl⟩
  | cons element rest ih =>
    rw [places_cons] at cut
    cases cut with
    | here stops =>
      obtain ⟨ended, stopped⟩ := (Place.stops_iff host).1 stops
      have stopped' : (session.step host world element).ending ≠ .completed := fun completed =>
        stopped (ended.symm.trans completed)
      rw [attempted_cons_of_stopped host stopped', run_cons_of_stopped host stopped']
      exact ⟨rfl, ended⟩
    | later going later =>
      have completed := (Place.completed_iff host).2 going
      obtain ⟨tried, ended⟩ := ih later
      rw [attempted_cons_of_completed host completed, run_cons_of_completed host completed, tried]
      exact ⟨rfl, ended⟩

/-- A run is cut where it is by design, if and only if no element up to there faults. -/
theorem cut_stops_iff {places : List (Place World Element)} {count : Nat} {stop : Option Ending}
    (cut : Cut (Place.Halts host) places count stop) :
    Cut (Place.Stops host) places count stop ↔
      ∀ place ∈ places.take count, ¬ ∃ fault, place.Faults host fault := by
  refine cut.widen_iff (fun _ _ => .halts) ?_ ?_ ?_
  · intro place stop stops
    cases stops with
    | halts halts => exact .inl halts
    | faults faults => exact .inr ⟨_, faults⟩
  · rintro place ⟨fault, faults⟩
    exact ⟨_, .faults faults⟩
  · rintro place stop halts ⟨fault, faults⟩
    exact Place.not_faults_of_halts host halts fault faults

theorem mem_places {session : Session} {world : World} {chain : List Element} {place : Place World Element}
    (inside : place ∈ session.places host world chain) :
    place.item ∈ chain ∧ place.session.limit = session.limit := by
  refine mem_course (fun place => ?_) inside
  rw [Place.leave, Place.outcome, step_session]

/-- An element does not fault if its `exit` has a short numeral and its children can be waited for. -/
theorem not_faults {session : Session} {world : World} {element : Element} (short : element.ShortExit)
    (waited : ∀ limit, session.limit = some limit → limit.exceedsWait = false) (fault : Fault) :
    ¬ session.Faults host world element fault := by
  intro faults
  cases faults with
  | @numeral sign digits rest signed decimal long =>
    have counted := short rfl (sign ++ digits) rfl
    have all : digits.filter Numeral.isDigit = digits :=
      List.filter_eq_self.2 (List.all_eq_true.1 decimal)
    rw [List.filter_append, List.length_append, all] at counted
    omega
  | single _ started =>
    obtain ⟨limited, exceeds, -⟩ := started
    rw [waited _ limited] at exceeds
    cases exceeds
  | piped started =>
    obtain ⟨limited, exceeds, -⟩ := started
    rw [waited _ limited] at exceeds
    cases exceeds

/-- The run of a chain is that of its elements up to the first that stops it; these extend the history by
their texts and write what each of them writes, and the run ends as the last of them says. It stops where
it does by design if and only if no element up to there faults, and none does if no numeral of an `exit` is
too long and the limit is one that can be waited for. -/
theorem run_ends_at_first_stop (session : Session) (world : World) (chain : List Element) :
    (∃ count stop, Cut (Place.Stops host) (session.places host world chain) count stop) ∧
      (∀ count stop, Cut (Place.Stops host) (session.places host world chain) count stop →
        (session.run host world chain).ending = stop.getD .completed ∧
          (stop = none → count = chain.length) ∧
          (session.run host world chain).session.history =
            session.history ++ (chain.take count).map Element.text ∧
          Trace.output (session.run host world chain).trace =
            ((session.places host world chain).take count).flatMap (·.output host) ∧
          session.run host world chain = session.run host world (chain.take count)) ∧
      (∀ count stop, Cut (Place.Halts host) (session.places host world chain) count stop →
        (Cut (Place.Stops host) (session.places host world chain) count stop ↔
          ∀ place ∈ (session.places host world chain).take count, ¬ ∃ fault, place.Faults host fault)) ∧
      ((∀ element ∈ chain, element.ShortExit) →
        (∀ limit, session.limit = some limit → limit.exceedsWait = false) →
          ∀ place ∈ session.places host world chain, ¬ ∃ fault, place.Faults host fault) := by
  refine ⟨Cut.exists_cut _ _, ?_, fun count stop cut => cut_stops_iff host cut, ?_⟩
  · intro count stop cut
    obtain ⟨tried, ended⟩ := attempted_of_cut host cut
    refine ⟨ended, ?_, ?_, ?_, ?_⟩
    · rintro rfl
      rw [cut.count_of_none, places, course_length]
    · rw [run_history, tried]
    · rw [run_trace, Trace.output_flatMap, tried, places, places, course_take]
      exact congrArg (List.flatMap · _) (funext fun place => (place.performs host).output)
    · rw [← tried, run_attempted]
  · rintro short waited place inside ⟨fault, faults⟩
    obtain ⟨listed, limited⟩ := mem_places host inside
    exact not_faults host (short _ listed) (limited ▸ waited) fault faults

section

variable {host}

theorem run_terminated_iff {session : Session} {world : World} {chain : List Element} {code : Int} :
    (session.run host world chain).ending = .terminated code ↔
      ∃ here there command, Reaches host session world chain here there (.single command) ∧
        command.name = "exit".toList ∧ ExitRequest.ofArgs command.args = .code code := by
  have stop : Ending.terminated code ≠ .completed := by simp
  rw [run_ending_iff host stop]
  constructor
  · rintro ⟨here, there, element, reached, terminated⟩
    obtain ⟨command, rfl, named, granted⟩ := (step_terminated_iff host).1 terminated
    exact ⟨here, there, command, reached, named, granted⟩
  · rintro ⟨here, there, command, reached, named, granted⟩
    exact ⟨here, there, _, reached, (step_terminated_iff host).2 ⟨command, rfl, named, granted⟩⟩

theorem Reaches.mem_limit {session here : Session} {world there : World} {chain : List Element}
    {element : Element} (reached : Reaches host session world chain here there element) :
    element ∈ chain ∧ here.limit = session.limit := by
  induction reached with
  | here => exact ⟨List.mem_cons_self, rfl⟩
  | later _ _ ih =>
    obtain ⟨listed, limited⟩ := ih
    rw [step_session] at limited
    exact ⟨List.mem_cons_of_mem _ listed, limited⟩

variable {session : Session} {world : World} {args : List Text}

theorem run_exit_of_code {code : Int} (granted : ExitRequest.ofArgs args = .code code) (more : List Element) :
    session.run host world (.single ⟨"exit".toList, args⟩ :: more) =
      ⟨session.record (.single ⟨"exit".toList, args⟩), world, [], .terminated code⟩ := by
  have step := step_exit host session world args
  rw [granted] at step
  have stopped : (session.step host world (.single ⟨"exit".toList, args⟩)).ending ≠ .completed := by
    rw [step]
    exact fun completed => nomatch completed
  exact (run_cons_of_stopped host stopped more).trans step

theorem run_exit_of_error {error : ArgumentError} (refused : ExitRequest.ofArgs args = .error error)
    (more : List Element) : session.run host world (.single ⟨"exit".toList, args⟩ :: more) =
      ((session.record (.single ⟨"exit".toList, args⟩)).run host world more).after
        [.failed (.single ⟨"exit".toList, args⟩) (.arguments error)] := by
  have step := step_exit host session world args
  rw [refused] at step
  have completed : (session.step host world (.single ⟨"exit".toList, args⟩)).ending = .completed := by
    rw [step]
  rw [run_cons_of_completed host completed, step]

end

/-- Three million seconds, which is longer than can be waited for. -/
def longLimit : Binary64 :=
  Binary64.ofDecimal false 3000000 0

def echo (word : Text) : Element :=
  .single ⟨"echo".toList, [word]⟩

/-- Two commands neither of which stops a run by design; under such a limit the first does. -/
theorem run_cut_by_limit :
    let chain := [echo ['a'], echo ['b']]
    let fresh : Session := ⟨[], [], some longLimit⟩
    let done := fresh.run (.still ⟨[]⟩) () chain
    Cut (Place.Halts (.still ⟨[]⟩)) (fresh.places (.still ⟨[]⟩) () chain) 2 none ∧
      done.ending = .crashed (.limitTooLong longLimit) ∧ done.session.history = ["echo a".toList] := by
  have different : "echo".toList ≠ "exit".toList := by decide
  have passes : ∀ session word ending,
      ¬ Place.Halts (.still ⟨[]⟩) ⟨session, (), echo word⟩ ending := by
    intro session word ending halts
    cases halts with
    | exit single named _ =>
      cases single
      exact different named
    | first piped _ => cases piped
  refine ⟨.later (passes _ _) (.later (passes _ _) .nil), ?_, ?_⟩
  · decide +kernel
  · decide +kernel

end Session

end ChainShell
