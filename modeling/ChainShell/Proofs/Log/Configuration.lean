import ChainShell.Log
import ChainShell.Proofs.Text.Wrap
import Mathlib.Data.List.Basic
import Mathlib.Data.List.Induction

namespace ChainShell

namespace Log

theorem richEntry_ne_nil (width : Nat) (level : Level) (message : Text) :
    richEntry width level message ≠ [] := by
  obtain ⟨first, rest, wrapped⟩ :=
    List.exists_cons_of_ne_nil (Text.wrap_ne_nil (max 1 (width - 9)) message)
  simp [richEntry, wrapped, Diagnostics.endLines]

/-- A sink writes something for every message that reaches its threshold, an empty one included. -/
theorem Sink.write_ne_nil_iff {sink : Sink} {width : Nat} {level : Level} {message : Text} :
    sink.write width level message ≠ [] ↔ sink.threshold.severity ≤ level.severity := by
  rw [write]
  split
  · rename_i below
    exact ⟨fun written => absurd rfl written, fun reached => absurd below (Nat.not_lt.2 reached)⟩
  · rename_i reached
    refine ⟨fun _ => Nat.le_of_not_lt reached, fun _ => ?_⟩
    split
    · simp [plainEntry]
    · exact richEntry_ne_nil width level message

/-- What a call asks for, with the level's name as it is looked up. -/
def asked (call : Text × LogProfile) : Text × LogProfile :=
  (Text.upperCase call.1, call.2)

/-- Whether a call names a level, in any letter case. -/
def namesLevel (call : Text × LogProfile) : Bool :=
  (Level.ofName? (Text.upperCase call.1)).isSome

/-- What was asked for by the last call that names a level. -/
def lastAsked (calls : List (Text × LogProfile)) : Option (Text × LogProfile) :=
  (calls.filter namesLevel).getLast?.map asked

/-- No call has failed since what was asked for last changed: from the change on, all calls ask for
the same. -/
def Undisturbed (calls : List (Text × LogProfile)) : Prop :=
  ∃ front call rest, calls = front ++ call :: rest ∧ namesLevel call = true ∧
    lastAsked front ≠ some (asked call) ∧ ∀ later ∈ rest, asked later = asked call

/-- Configures over and over, whether calls fail or not. -/
def State.configureAll (state : State) (calls : List (Text × LogProfile)) : State :=
  calls.foldl (fun state call => (state.configure call.1 call.2).1) state

section Calls

variable {calls : List (Text × LogProfile)} {call : Text × LogProfile}

theorem lastAsked_append_of_level (known : namesLevel call = true) :
    lastAsked (calls ++ [call]) = some (asked call) := by
  simp [lastAsked, List.filter_append, known]

theorem lastAsked_append_of_unknown (unknown : namesLevel call = false) :
    lastAsked (calls ++ [call]) = lastAsked calls := by
  simp [lastAsked, List.filter_append, unknown]

theorem exists_level_of_lastAsked {level : Text} {profile : LogProfile}
    (last : lastAsked calls = some (level, profile)) :
    ∃ threshold, Level.ofName? level = some threshold := by
  obtain ⟨call, isLast, same⟩ := Option.map_eq_some_iff.1 last
  have known := (List.mem_filter.1 (List.mem_of_getLast? isLast)).2
  cases same
  exact Option.isSome_iff_exists.1 known

theorem namesLevel_of_asked_eq {other : Text × LogProfile} (same : asked call = asked other) :
    namesLevel call = namesLevel other :=
  congrArg (fun choice : Text × LogProfile => (Level.ofName? choice.1).isSome) same

/-- The last of undisturbed calls is the change, or it repeats what undisturbed calls asked for. -/
theorem Undisturbed.cases_concat (quiet : Undisturbed (calls ++ [call])) :
    namesLevel call = true ∧ (lastAsked calls ≠ some (asked call) ∨ Undisturbed calls) := by
  obtain ⟨front, first, rest, cut, known, changed, same⟩ := quiet
  rcases List.eq_nil_or_concat' rest with rfl | ⟨rest, last, rfl⟩
  · obtain ⟨rfl, sameCall⟩ := List.append_inj' cut rfl
    cases sameCall
    exact ⟨known, .inl changed⟩
  · rw [← List.cons_append, ← List.append_assoc] at cut
    obtain ⟨rfl, sameCall⟩ := List.append_inj' cut rfl
    cases sameCall
    have alike := namesLevel_of_asked_eq (same call (by simp))
    refine ⟨alike.trans known, .inr ⟨front, first, rest, rfl, known, changed, fun later inside => ?_⟩⟩
    exact same later (by simp [inside])

theorem undisturbed_of_changed (known : namesLevel call = true)
    (changed : lastAsked calls ≠ some (asked call)) : Undisturbed (calls ++ [call]) :=
  ⟨calls, call, [], rfl, known, changed, by simp⟩

/-- The last of undisturbed calls asked for the same as the one that began them. -/
theorem lastAsked_of_repeated {front rest : List (Text × LogProfile)} (known : namesLevel call = true)
    (same : ∀ later ∈ rest, asked later = asked call) :
    lastAsked (front ++ call :: rest) = some (asked call) := by
  induction rest using List.reverseRecOn with
  | nil => exact lastAsked_append_of_level known
  | append_singleton rest later _ =>
    have alike := same later (by simp)
    rw [← List.cons_append, ← List.append_assoc,
      lastAsked_append_of_level ((namesLevel_of_asked_eq alike).trans known), alike]

/-- Asking for the same once more neither disturbs nor mends anything. -/
theorem undisturbed_append_iff (repeated : lastAsked calls = some (asked call)) :
    Undisturbed (calls ++ [call]) ↔ Undisturbed calls := by
  constructor
  · intro quiet
    exact quiet.cases_concat.2.resolve_left (absurd repeated)
  · rintro ⟨front, first, rest, rfl, known, changed, same⟩
    rw [lastAsked_of_repeated known same, Option.some.injEq] at repeated
    refine ⟨front, first, rest ++ [call], by simp, known, changed, fun later inside => ?_⟩
    rcases List.mem_append.1 inside with earlier | last
    · exact same later earlier
    · rw [List.mem_singleton.1 last, repeated]

end Calls

section Configure

variable {state : State} {level : Text} {profile : LogProfile}

theorem configure_of_remembered (same : state.configured = some (Text.upperCase level, profile)) :
    state.configure level profile = (state, none) := by
  rw [State.configure, if_pos same]

theorem configure_of_unknown (unknown : Level.ofName? (Text.upperCase level) = none)
    (other : state.configured ≠ some (Text.upperCase level, profile)) :
    state.configure level profile = (state.remove, some ⟨Text.upperCase level⟩) := by
  rw [State.configure, if_neg other]
  simp only [State.add, unknown]

theorem configure_of_level {threshold : Level}
    (known : Level.ofName? (Text.upperCase level) = some threshold)
    (other : state.configured ≠ some (Text.upperCase level, profile)) :
    state.configure level profile =
      (⟨[⟨threshold, profile⟩], some (Text.upperCase level, profile)⟩, none) := by
  rw [State.configure, if_neg other]
  simp only [State.add, known, State.remove, List.nil_append]

end Configure

/-- What calls leave of an unconfigured log. -/
structure State.Follows (state : State) (calls : List (Text × LogProfile)) : Prop where
  configured : state.configured = lastAsked calls
  installed : ∀ level profile threshold, lastAsked calls = some (level, profile) →
    Level.ofName? level = some threshold → Undisturbed calls → state.sinks = [⟨threshold, profile⟩]
  dropped : lastAsked calls ≠ none → ¬ Undisturbed calls → state.sinks = []

namespace State.Follows

variable {state : State} {calls : List (Text × LogProfile)} {call : Text × LogProfile}

theorem unconfigured (sinks : List Sink) : Follows ⟨sinks, none⟩ [] :=
  ⟨rfl, fun _ _ _ last => (nomatch last), fun last => absurd rfl last⟩

/-- A name that is no level's is not remembered, so it is always looked up. -/
theorem configure_unknown (follows : state.Follows calls) (unknown : namesLevel call = false) :
    state.configure call.1 call.2 = (state.remove, some ⟨Text.upperCase call.1⟩) := by
  have absent : Level.ofName? (Text.upperCase call.1) = none := by
    simpa [namesLevel] using unknown
  refine configure_of_unknown absent fun remembered => ?_
  obtain ⟨threshold, present⟩ :=
    exists_level_of_lastAsked (follows.configured.symm.trans remembered)
  rw [absent] at present
  cases present

theorem configure (follows : state.Follows calls) (call : Text × LogProfile) :
    Follows (state.configure call.1 call.2).1 (calls ++ [call]) := by
  cases known : namesLevel call with
  | false =>
    rw [follows.configure_unknown known]
    refine ⟨?_, fun _ _ _ _ _ quiet => ?_, fun _ _ => rfl⟩
    · rw [lastAsked_append_of_unknown known]
      exact follows.configured
    · exact absurd quiet.cases_concat.1 (by simp [known])
  | true =>
    have last : lastAsked (calls ++ [call]) = some (asked call) := lastAsked_append_of_level known
    by_cases repeated : lastAsked calls = some (asked call)
    · rw [configure_of_remembered (follows.configured.trans repeated)]
      have same := undisturbed_append_iff repeated
      refine ⟨?_, ?_, fun _ disturbed => ?_⟩
      · rw [last, follows.configured, repeated]
      · intro level profile threshold named present quiet
        exact follows.installed level profile threshold (repeated.trans (last.symm.trans named)) present
          (same.1 quiet)
      · exact follows.dropped (by simp [repeated]) (mt same.2 disturbed)
    · obtain ⟨threshold, present⟩ := Option.isSome_iff_exists.1 known
      have changed : state.configured ≠ some (asked call) := follows.configured ▸ repeated
      rw [configure_of_level present changed]
      refine ⟨last.symm, ?_, fun _ disturbed => ?_⟩
      · intro level profile other named presentOther _
        cases last.symm.trans named
        rw [present] at presentOther
        cases presentOther
        rfl
      · exact absurd (undisturbed_of_changed known repeated) disturbed

theorem configureAll (sinks : List Sink) (calls : List (Text × LogProfile)) :
    Follows (State.configureAll ⟨sinks, none⟩ calls) calls := by
  induction calls using List.reverseRecOn with
  | nil => exact unconfigured sinks
  | append_singleton calls call ih =>
    rw [State.configureAll, List.foldl_append]
    exact ih.configure call

end State.Follows

/-- The log after any calls, whatever sinks there were before the first. What is remembered was asked for
last by a call that did not fail. It has its one sink, and messages are written from its threshold on, if
and only if the calls are undisturbed; else there is no sink. A call fails if it names no level: what is
remembered stays then, and the sinks go. -/
theorem configured_agrees_iff (sinks : List Sink) (calls : List (Text × LogProfile)) :
    let state := State.configureAll ⟨sinks, none⟩ calls
    state.configured = lastAsked calls ∧
      (∀ level profile, state.configured = some (level, profile) →
        ∃ threshold, Level.ofName? level = some threshold ∧
          (state.sinks = [⟨threshold, profile⟩] ↔ Undisturbed calls) ∧
          (state.sinks = [] ↔ ¬ Undisturbed calls) ∧
          ∀ width severity message, state.write width severity message ≠ [] ↔
            Undisturbed calls ∧ threshold.severity ≤ severity.severity) ∧
      ∀ call, (namesLevel call = true → (state.configure call.1 call.2).2 = none) ∧
        (namesLevel call = false →
          state.configure call.1 call.2 = (state.remove, some ⟨Text.upperCase call.1⟩)) := by
  have follows := State.Follows.configureAll sinks calls
  refine ⟨follows.configured, ?_, fun call => ⟨fun known => ?_, follows.configure_unknown⟩⟩
  · intro level profile remembered
    have last := follows.configured.symm.trans remembered
    obtain ⟨threshold, present⟩ := exists_level_of_lastAsked last
    refine ⟨threshold, present, ?_⟩
    by_cases quiet : Undisturbed calls
    · have one := follows.installed level profile threshold last present quiet
      simp [one, quiet, State.write, Sink.write_ne_nil_iff]
    · have none := follows.dropped (by simp [last]) quiet
      simp [none, quiet, State.write]
  · by_cases same : (State.configureAll ⟨sinks, none⟩ calls).configured = some (asked call)
    · rw [configure_of_remembered same]
    · obtain ⟨threshold, present⟩ := Option.isSome_iff_exists.1 known
      rw [configure_of_level present same]

/-- A call that fails takes the sink of the one before it, and repeating that one does not bring it back,
though it does not fail and is remembered. -/
theorem silenced_by_unknown_level :
    let info : Text × LogProfile := ("INFO".toList, .default)
    let state := State.initial.configureAll [info]
    let failed := state.configure "NOPE".toList .default
    let again := failed.1.configure "INFO".toList .default
    state.sinks = [⟨.info, .default⟩] ∧ failed = (⟨[], some info⟩, some ⟨"NOPE".toList⟩) ∧
      again = (⟨[], some info⟩, none) ∧ again.1.write 80 .error "boom".toList = [] := by
  decide

end Log

end ChainShell
