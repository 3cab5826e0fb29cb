import ChainShell.Proofs.Session.Exit
import ChainShell.Proofs.Session.Run

namespace ChainShell

variable {World : Type} (host : Host World)

namespace Host

/-- The child is started, but the wait for it is longer than any that can be asked for. -/
def StartsUnwaited (world : World) (request : Request) (limit : Binary64) : Prop :=
  request.limit = some limit ∧ limit.exceedsWait = true ∧
    ∀ cause, (host.run world { request with input := none }).2 ≠ .notStarted cause

theorem executeUnwaited_eq_fault_iff {world : World} {request : Request} {limit : Binary64}
    {fault : Fault} : (host.executeUnwaited world request limit).2.2 = .error (.fault fault) ↔
      (∀ cause, (host.run world { request with input := none }).2 ≠ .notStarted cause) ∧
        fault = .limitTooLong limit := by
  rw [executeUnwaited]
  obtain ⟨world', completion⟩ := host.run world { request with input := none }
  cases completion with
  | notStarted cause =>
    constructor
    · intro faulty
      cases faulty
    · rintro ⟨started, _⟩
      exact absurd rfl (started cause)
  | finished _ _ | timedOut _ _ | broken _ _ =>
    constructor
    · intro faulty
      cases faulty
      refine ⟨fun cause notStarted => ?_, rfl⟩
      cases notStarted
    · rintro ⟨_, rfl⟩
      rfl

theorem executeUnwaited_ne_ok (world : World) (request : Request) (limit : Binary64) (data : Bytes) :
    (host.executeUnwaited world request limit).2.2 ≠ .ok data := by
  rw [executeUnwaited]
  obtain ⟨world', completion⟩ := host.run world { request with input := none }
  intro finished
  cases completion <;> cases finished

/-- A fault of a child is that it has been started and cannot be waited for. -/
theorem execute_eq_fault_iff {world : World} {request : Request} {fault : Fault} :
    (host.execute world request).2.2 = .error (.fault fault) ↔
      ∃ limit, host.StartsUnwaited world request limit ∧ fault = .limitTooLong limit := by
  rw [execute]
  cases wait : request.limit.filter Binary64.exceedsWait with
  | none =>
    constructor
    · intro faulty
      dsimp only at faulty
      cases completion : (host.run world request).2 <;> rw [completion] at faulty <;> cases faulty
    · rintro ⟨limit, ⟨limited, exceeds, _⟩, _⟩
      rw [limited, Option.filter_some, exceeds] at wait
      cases wait
  | some limit =>
    obtain ⟨limited, exceeds⟩ := Option.filter_eq_some_iff.1 wait
    rw [executeUnwaited_eq_fault_iff]
    constructor
    · rintro ⟨started, rfl⟩
      exact ⟨limit, ⟨limited, exceeds, started⟩, rfl⟩
    · rintro ⟨other, ⟨limited', _, started⟩, rfl⟩
      rw [limited] at limited'
      cases limited'
      exact ⟨started, rfl⟩

/-- A child that gives output has been waited for, and so can be all others under its limit. -/
theorem not_startsUnwaited_of_ok {world later : World} {request more : Request} {data : Bytes}
    {limit : Binary64} (finished : (host.execute world request).2.2 = .ok data)
    (same : more.limit = request.limit) : ¬ host.StartsUnwaited later more limit := by
  rintro ⟨limited, exceeds, _⟩
  rw [execute, ← same, limited, Option.filter_some, exceeds] at finished
  exact host.executeUnwaited_ne_ok _ _ _ _ finished

end Host

theorem Builtin.name_of_exit {name : Text} (exit : ofName? name = some .exit) : name = "exit".toList := by
  rw [ofName?] at exit
  split at exit
  · cases exit
  · split at exit
    · assumption
    · split at exit <;> cases exit

namespace Session

/-- The faults of an element: digits that `exit` does not convert, and a limit under which a child
is started but cannot be waited for. -/
inductive Faults (session : Session) (world : World) : Element → Fault → Prop
  | numeral {sign digits rest} : sign ∈ Numeral.signs → digits.all Numeral.isDigit = true →
      numeralLimit < digits.length → Faults session world
        (.single ⟨"exit".toList, (sign ++ digits) :: rest⟩) (.numeralTooLong digits.length)
  | single {command limit} : Builtin.ofName? command.name = none →
      host.StartsUnwaited world (session.request command none) limit →
      Faults session world (.single command) (.limitTooLong limit)
  | piped {first second limit} : host.StartsUnwaited world (session.request first none) limit →
      Faults session world (.piped first second) (.limitTooLong limit)

theorem settle_crashed_iff {session : Session} {element : Element} {world : World} {trace : List Event}
    {result : Except Failure Bytes} {fault : Fault} :
    (session.settle element world trace result).ending = .crashed fault ↔
      result = .error (.fault fault) := by
  constructor
  · intro crashed
    rcases result with (error | other) | data <;> cases crashed
    rfl
  · rintro rfl
    rfl

theorem settle_ne_aborted (session : Session) (element : Element) (world : World) (trace : List Event)
    (result : Except Failure Bytes) (error : ExecError) :
    (session.settle element world trace result).ending ≠ .aborted error := by
  intro aborted
  rcases result with (_ | _) | _ <;> cases aborted

theorem single_crashed_iff {session : Session} {world : World} {command : Command} {fault : Fault} :
    (session.step host world (.single command)).ending = .crashed fault ↔
      session.Faults host world (.single command) fault := by
  rw [step, runSingle]
  split
  · rename_i cd
    constructor
    · intro crashed
      split at crashed <;> cases crashed
    · intro faulty
      cases faulty with
      | numeral _ _ _ => cases cd
      | single external _ => rw [cd] at external; cases external
  · rename_i exit
    have faults : session.Faults host world (.single command) fault ↔
        ExitRequest.ofArgs command.args = .fault fault := by
      rw [ExitRequest.ofArgs_eq_fault_iff]
      constructor
      · intro faulty
        cases faulty with
        | numeral signed decimal long => exact ⟨_, signed, _, _, rfl, decimal, long, rfl⟩
        | single external _ => rw [exit] at external; cases external
      · rintro ⟨sign, signed, digits, rest, args, decimal, long, rfl⟩
        obtain ⟨name, _⟩ := command
        cases args
        cases Builtin.name_of_exit exit
        exact .numeral signed decimal long
    rw [faults]
    cases ExitRequest.ofArgs command.args with
    | code _ => constructor <;> intro same <;> cases same
    | error _ => constructor <;> intro same <;> cases same
    | fault _ => constructor <;> intro same <;> cases same <;> rfl
  · rename_i history
    constructor
    · intro crashed
      cases crashed
    · intro faulty
      cases faulty with
      | numeral _ _ _ => cases history
      | single external _ => rw [history] at external; cases external
  · rename_i external
    rw [settle_crashed_iff, execute, Host.execute_eq_fault_iff]
    constructor
    · rintro ⟨limit, started, rfl⟩
      exact .single external started
    · intro faulty
      cases faulty with
      | numeral _ _ _ => cases external
      | single _ started => exact ⟨_, started, rfl⟩

theorem piped_crashed_iff {session : Session} {world : World} {first second : Command} {fault : Fault} :
    (session.step host world (.piped first second)).ending = .crashed fault ↔
      session.Faults host world (.piped first second) fault := by
  have faults : session.Faults host world (.piped first second) fault ↔
      (session.execute host world first none).2.2 = .error (.fault fault) := by
    rw [execute, Host.execute_eq_fault_iff]
    constructor
    · intro faulty
      cases faulty with
      | piped started => exact ⟨_, started, rfl⟩
    · rintro ⟨limit, started, rfl⟩
      exact .piped started
  have executed : ((session.record (.piped first second)).execute host world first none).2.2 =
      (session.execute host world first none).2.2 := rfl
  rw [faults, ← executed, step, runPiped]
  split
  · rename_i later trace data ran
    rw [settle_crashed_iff, ran]
    constructor
    · intro faulty
      obtain ⟨limit, started, _⟩ := Host.execute_eq_fault_iff _ |>.1 faulty
      have finished : (host.execute world (session.request first none)).2.2 = .ok data :=
        congrArg (·.2.2) ran
      exact absurd started (host.not_startsUnwaited_of_ok finished rfl)
    · intro faulty
      cases faulty
  · rename_i ran
    rw [ran]
    constructor <;> intro same <;> cases same
  · rename_i ran
    rw [ran]
    constructor <;> intro same <;> cases same <;> rfl

/-- An element crashes exactly by its faults. -/
theorem step_crashed_iff {session : Session} {world : World} {element : Element} {fault : Fault} :
    (session.step host world element).ending = .crashed fault ↔
      session.Faults host world element fault := by
  cases element with
  | single command => exact single_crashed_iff host
  | piped first second => exact piped_crashed_iff host

/-- A line is given up by a pipe whose first command fails, and by nothing else. -/
theorem step_aborted_iff {session : Session} {world : World} {element : Element} {error : ExecError} :
    (session.step host world element).ending = .aborted error ↔
      ∃ first second, element = .piped first second ∧
        (session.execute host world first none).2.2 = .error (.error error) := by
  cases element with
  | single command =>
    constructor
    · intro aborted
      rw [step, runSingle] at aborted
      split at aborted
      · split at aborted <;> cases aborted
      · split at aborted <;> cases aborted
      · cases aborted
      · exact absurd aborted (settle_ne_aborted _ _ _ _ _ _)
    · rintro ⟨_, _, same, _⟩
      cases same
  | piped first second =>
    have executed : ((session.record (.piped first second)).execute host world first none).2.2 =
        (session.execute host world first none).2.2 := rfl
    constructor
    · intro aborted
      refine ⟨first, second, rfl, ?_⟩
      rw [← executed]
      rw [step, runPiped] at aborted
      split at aborted
      · exact absurd aborted (settle_ne_aborted _ _ _ _ _ _)
      · rename_i ran
        cases aborted
        rw [ran]
      · cases aborted
    · rintro ⟨_, _, same, failed⟩
      cases same
      rw [← executed] at failed
      rw [step, runPiped]
      split <;> rename_i ran <;> rw [ran] at failed <;> cases failed
      rfl

theorem run_aborted_iff {session : Session} {world : World} {chain : List Element} {error : ExecError} :
    (session.run host world chain).ending = .aborted error ↔
      ∃ here there first second, Reaches host session world chain here there (.piped first second) ∧
        (here.execute host there first none).2.2 = .error (.error error) := by
  have stop : Ending.aborted error ≠ .completed := by simp
  rw [run_ending_iff host stop]
  constructor
  · rintro ⟨here, there, element, reached, aborted⟩
    obtain ⟨first, second, rfl, failed⟩ := (step_aborted_iff host).1 aborted
    exact ⟨here, there, first, second, reached, failed⟩
  · rintro ⟨here, there, first, second, reached, failed⟩
    exact ⟨here, there, _, reached, (step_aborted_iff host).2 ⟨first, second, rfl, failed⟩⟩

theorem run_crashed_iff {session : Session} {world : World} {chain : List Element} {fault : Fault} :
    (session.run host world chain).ending = .crashed fault ↔
      ∃ here there element, Reaches host session world chain here there element ∧
        here.Faults host there element fault := by
  have stop : Ending.crashed fault ≠ .completed := by simp
  rw [run_ending_iff host stop]
  simp only [step_crashed_iff]

theorem step_exit (session : Session) (world : World) (args : List Text) :
    session.step host world (.single ⟨"exit".toList, args⟩) =
      match ExitRequest.ofArgs args with
      | .code code => ⟨session.record (.single ⟨"exit".toList, args⟩), world, [], .terminated code⟩
      | .error e => ⟨session.record (.single ⟨"exit".toList, args⟩), world,
          [.failed (.single ⟨"exit".toList, args⟩) (.arguments e)], .completed⟩
      | .fault fault => ⟨session.record (.single ⟨"exit".toList, args⟩), world, [], .crashed fault⟩ := rfl

/-- `exit` gives a code or an error of its own, unless its argument is a numeral that is too long. -/
theorem step_exit_settles_iff {session : Session} {world : World} {args : List Text} :
    ((∃ code, (session.step host world (.single ⟨"exit".toList, args⟩)).ending = .terminated code) ∨
        ∃ error, (session.step host world (.single ⟨"exit".toList, args⟩)).ending = .completed ∧
          (session.step host world (.single ⟨"exit".toList, args⟩)).trace =
            [.failed (.single ⟨"exit".toList, args⟩) (.arguments error)]) ↔
      ∀ sign ∈ Numeral.signs, ∀ digits rest, args = (sign ++ digits) :: rest →
        digits.all Numeral.isDigit = true → digits.length ≤ numeralLimit := by
  constructor
  · intro settled sign signed digits rest cut decimal
    refine Nat.le_of_not_lt fun long => ?_
    have faulty := ExitRequest.ofArgs_eq_fault_iff.2 ⟨sign, signed, digits, rest, cut, decimal, long, rfl⟩
    rw [step_exit, faulty] at settled
    obtain ⟨_, ended⟩ | ⟨_, ended, _⟩ := settled <;> cases ended
  · intro short
    rw [step_exit]
    cases answer : ExitRequest.ofArgs args with
    | code code => exact .inl ⟨code, rfl⟩
    | error e => exact .inr ⟨e, rfl, rfl⟩
    | fault fault =>
      obtain ⟨sign, signed, digits, rest, cut, decimal, long, -⟩ := ExitRequest.ofArgs_eq_fault_iff.1 answer
      exact absurd (short sign signed digits rest cut decimal) (Nat.not_le_of_lt long)

end Session

end ChainShell
