import ChainShell.Proofs.Loop.Replay
import ChainShell.Proofs.Session.Faults

namespace ChainShell.Loop

variable {World : Type} (host : Host World)

def ReadAs (lines : List Text) (chains : List (List Element)) : Prop :=
  List.Forall₂ (fun line chain => Chain.parse line = .ok chain) lines chains

/-- Loops that do the same: the same output of commands, errors of elements, session, world and end. -/
structure Outcome.Matches {One Other : Type} (one : Outcome World One) (other : Outcome World Other) :
    Prop where
  output : Trace.output one.trace = Trace.output other.trace
  failures : Trace.failures one.trace = Trace.failures other.trace
  session : one.session = other.session
  world : one.world = other.world
  ending : one.ending = other.ending

/-- A loop over lines comes to a pipe whose first command fails. -/
def Breaks (session : Session) (world : World) (lines : List Text) : Prop :=
  ∃ here there line chain here' there' first second error,
    Reaches host session world lines here there line ∧ Chain.parse line = .ok chain ∧
      Session.Reaches host here there chain here' there' (.piped first second) ∧
      (here'.execute host there' first none).2.2 = .error (.error error)

/-- What is kept of chains, each on a line of its own, up to the line that ends the loop, if any: all but
the elements behind a pipe whose first command fails, on its line. -/
inductive Kept : Session → World → List (List Element) → List (List Element) → Prop
  | nil {session world} : Kept session world [] []
  | whole {session world chain rest kept} : (session.run host world chain).ending = .completed →
      Kept (session.run host world chain).session (session.run host world chain).world rest kept →
      Kept session world (chain :: rest) (chain :: kept)
  | cut {session world front first second skipped error rest kept} :
      (session.run host world front).ending = .completed →
      ((session.run host world front).session.execute host (session.run host world front).world first
        none).2.2 = .error (.error error) →
      Kept (session.run host world (front ++ .piped first second :: skipped)).session
        (session.run host world (front ++ .piped first second :: skipped)).world rest kept →
      Kept session world ((front ++ .piped first second :: skipped) :: rest)
        ((front ++ [.piped first second]) :: kept)
  | ended {session world chain rest} : (session.run host world chain).ending ≠ .completed →
      (∀ error, (session.run host world chain).ending ≠ .aborted error) →
      Kept session world (chain :: rest) (chain :: rest)

theorem exists_kept (session : Session) (world : World) (chains : List (List Element)) :
    ∃ kept, Kept host session world chains kept := by
  induction chains generalizing session world with
  | nil => exact ⟨[], .nil⟩
  | cons chain rest ih =>
    obtain ⟨kept, later⟩ := ih (session.run host world chain).session (session.run host world chain).world
    by_cases completed : (session.run host world chain).ending = .completed
    · exact ⟨chain :: kept, .whole completed later⟩
    · by_cases aborted : ∃ error, (session.run host world chain).ending = .aborted error
      · obtain ⟨error, aborted⟩ := aborted
        obtain ⟨front, element, skipped, rfl, before, ended⟩ := Session.exists_stop host completed
        obtain ⟨first, second, rfl, failed⟩ := (Session.step_aborted_iff host).1 (ended.trans aborted)
        exact ⟨(front ++ [.piped first second]) :: kept, .cut before failed later⟩
      · exact ⟨chain :: rest, .ended completed fun error same => aborted ⟨error, same⟩⟩

variable {host}

theorem Turn.ofRun_going_iff {line : Text} {done : ChainShell.Outcome World} :
    (ofRun line done).stop = none ↔
      done.ending = .completed ∨ ∃ error, done.ending = .aborted error := by
  rw [ofRun]
  cases done.ending <;> simp

theorem turn_going {line : Text} {chain : List Element} (read : Chain.parse line = .ok chain)
    {session : Session} {world : World}
    (going : (session.run host world chain).ending = .completed ∨
      ∃ error, (session.run host world chain).ending = .aborted error) :
    (turn host session world line).stop = none ∧
      (turn host session world line).session = (session.run host world chain).session ∧
      (turn host session world line).world = (session.run host world chain).world := by
  rw [turn_of_read host read]
  refine ⟨Turn.ofRun_going_iff.2 going, Turn.ofRun_session _ _, ?_⟩
  rw [Turn.ofRun]
  split <;> rfl

/-- A pipe that gives up the rest of its line. -/
theorem run_append_aborted {session : Session} {world : World} {front : List Element}
    {first : Command} {error : ExecError}
    (before : (session.run host world front).ending = .completed)
    (failed : ((session.run host world front).session.execute host (session.run host world front).world
      first none).2.2 = .error (.error error)) (second : Command) (skipped : List Element) :
    (session.run host world (front ++ .piped first second :: skipped)).ending = .aborted error := by
  have aborted := (Session.step_aborted_iff host).2 ⟨first, second, rfl, failed⟩
  have stopped : ((session.run host world front).session.step host (session.run host world front).world
      (.piped first second)).ending ≠ .completed := by simp [aborted]
  rw [Session.run_append_of_completed host before, Session.run_cons_of_stopped host stopped]
  exact aborted

/-- A line that the loop goes on from may be replaced by its attempted elements, and so may what follows. -/
theorem agrees_attempted_append {session : Session} {world : World} {line : Text} {chain : List Element}
    {more rest : List Text} (read : Chain.parse line = .ok chain)
    (going : (session.run host world chain).ending = .completed ∨
      ∃ error, (session.run host world chain).ending = .aborted error)
    (later : Turn.Agrees
      (overLines host (session.run host world chain).session (session.run host world chain).world more)
      (overLines host (session.run host world chain).session (session.run host world chain).world rest)) :
    Turn.Agrees
      (overLines host session world ((session.attempted host world chain).map Element.text ++ more))
      (overLines host session world (line :: rest)) := by
  obtain ⟨stop, sameSession, sameWorld⟩ := turn_going read going
  have here := agrees_attempted host (Chain.plain_of_parse read) session world line
  rw [← turn_of_read host read] at here
  rw [← sameSession, ← sameWorld] at later
  exact agrees_append_cons host here stop later

/-- Lines do what the kept elements do, each on a line of its own. -/
theorem Kept.agrees {session : Session} {world : World} {chains kept : List (List Element)}
    (isKept : Kept host session world chains kept) {lines : List Text} (read : ReadAs lines chains) :
    Turn.Agrees (overLines host session world (kept.flatten.map Element.text))
      (overLines host session world lines) := by
  induction isKept generalizing lines with
  | nil =>
    cases read
    exact .refl _
  | @whole session world chain rest kept completed _ ih =>
    cases read with
    | @cons line _ lines _ parsed readRest =>
      have agree := agrees_attempted_append parsed (.inl completed) (ih readRest)
      rw [Session.attempted_of_completed host completed, ← List.map_append] at agree
      exact agree
  | @cut session world front first second skipped error rest kept before failed _ ih =>
    cases read with
    | @cons line _ lines _ parsed readRest =>
      have aborted := run_append_aborted before failed second skipped
      have stopped := (Session.step_aborted_iff host).2 ⟨first, second, rfl, failed⟩
      have agree := agrees_attempted_append parsed (.inr ⟨error, aborted⟩) (ih readRest)
      rw [Session.attempted_append_of_stopped host before (by simp [stopped]) skipped,
        ← List.map_append] at agree
      exact agree
  | @ended session world chain rest stopped unbroken =>
    cases read with
    | @cons line _ lines _ parsed _ =>
      obtain ⟨front, element, skipped, cut, before, ended⟩ := Session.exists_stop host stopped
      have here := agrees_attempted host (Chain.plain_of_parse parsed) session world line
      have tried : session.attempted host world chain = front ++ [element] :=
        cut ▸ Session.attempted_append_of_stopped host before (ended ▸ stopped) skipped
      rw [← turn_of_read host parsed, tried] at here
      have stop : (turn host session world line).stop ≠ none := by
        rw [turn_of_read host parsed, Ne, Turn.ofRun_going_iff]
        rintro (completed | ⟨error, aborted⟩)
        · exact stopped completed
        · exact unbroken error aborted
      obtain ⟨ending, stop⟩ := Option.ne_none_iff_exists'.1 stop
      -- what stands behind the end of the loop is not run either way
      have entries : (chain :: rest).flatten.map Element.text =
          (front ++ [element]).map Element.text ++ (skipped ++ rest.flatten).map Element.text := by
        simp [cut]
      rw [entries, overLines_append_of_some host (here.stop.trans stop), overLines_cons_of_some host stop]
      exact here

/-- Whether there is a pipe whose first command fails does not depend on the grouping. -/
theorem breaks_iff {lines : List Text} {chains : List (List Element)} (read : ReadAs lines chains)
    {session : Session} {world : World} : Breaks host session world lines ↔
      ∃ error, (session.run host world chains.flatten).ending = .aborted error := by
  constructor
  · rintro ⟨here, there, line, chain, here', there', first, second, error, reached, parsed, reached', failed⟩
    have aborted : (here.run host there chain).ending = .aborted error :=
      (Session.run_aborted_iff host).2 ⟨here', there', first, second, reached', failed⟩
    induction reached generalizing chains with
    | @here session world line rest =>
      cases read with
      | @cons _ other _ chains parsed' _ =>
        cases parsed.symm.trans parsed'
        refine ⟨error, ?_⟩
        rw [List.flatten_cons, Session.run_append_of_stopped host (by simp [aborted])]
        exact aborted
    | @later session world line rest here there last going reached ih =>
      cases read with
      | @cons _ other _ chains parsed' readRest =>
        rw [turn_of_read host parsed', Turn.ofRun_going_iff] at going
        rcases going with completed | ⟨error', aborted'⟩
        · obtain ⟨-, sameSession, sameWorld⟩ := turn_going parsed' (.inl completed)
          rw [List.flatten_cons, Session.run_append_of_completed host completed, Outcome.after_ending,
            ← sameSession, ← sameWorld]
          exact ih readRest parsed reached' aborted
        · refine ⟨error', ?_⟩
          rw [List.flatten_cons, Session.run_append_of_stopped host (by simp [aborted'])]
          exact aborted'
  · rintro ⟨error, aborted⟩
    induction read generalizing session world with
    | nil => cases aborted
    | @cons line chain lines chains parsed _ ih =>
      by_cases completed : (session.run host world chain).ending = .completed
      · obtain ⟨going, sameSession, sameWorld⟩ := turn_going parsed (.inl completed)
        rw [List.flatten_cons, Session.run_append_of_completed host completed, Outcome.after_ending,
          ← sameSession, ← sameWorld] at aborted
        obtain ⟨here, there, last, chain, here', there', first, second, error', reached, later⟩ := ih aborted
        exact ⟨here, there, last, chain, here', there', first, second, error', .later going reached, later⟩
      · rw [List.flatten_cons, Session.run_append_of_stopped host completed] at aborted
        obtain ⟨here, there, first, second, reached, failed⟩ := (Session.run_aborted_iff host).1 aborted
        exact ⟨session, world, line, chain, here, there, first, second, error, .here, parsed, reached, failed⟩

/-- Without a pipe whose first command fails, everything is kept. -/
theorem Kept.eq_of_unbroken {session : Session} {world : World} {chains kept : List (List Element)}
    (isKept : Kept host session world chains kept)
    (unbroken : ∀ error, (session.run host world chains.flatten).ending ≠ .aborted error) : kept = chains := by
  induction isKept with
  | nil => rfl
  | whole completed _ ih =>
    rw [List.flatten_cons, Session.run_append_of_completed host completed] at unbroken
    rw [ih unbroken]
  | @cut session world front first second skipped error rest kept before failed _ _ =>
    rw [List.flatten_cons, List.append_assoc, List.cons_append] at unbroken
    exact absurd (run_append_aborted before failed second (skipped ++ rest.flatten)) (unbroken error)
  | ended _ _ => rfl

/-- A pipe that stands alone on its line takes nothing with it. -/
theorem Kept.eq_of_singletons {session : Session} {world : World} {chains kept : List (List Element)}
    (isKept : Kept host session world chains kept) (alone : ∀ chain ∈ chains, chain.length = 1) :
    kept = chains := by
  induction isKept with
  | nil => rfl
  | whole _ _ ih => rw [ih (List.forall_mem_cons.1 alone).2]
  | @cut session world front first second skipped error rest kept _ _ _ ih =>
    obtain ⟨one, others⟩ := List.forall_mem_cons.1 alone
    have last : skipped = [] := by
      rw [List.length_append, List.length_cons] at one
      exact List.eq_nil_of_length_eq_zero (by omega)
    rw [ih others, last]
  | ended _ _ => rfl

theorem matches_of_agrees {One Other : Type} {reader : LineReader One} {source : One}
    {again : LineReader Other} {other : Other} {session : Session} {world : World}
    (agree : Turn.Agrees (overLines host session world (reader.script source).1)
      (overLines host session world (again.script other).1))
    (same : (reader.script source).2 = (again.script other).2) :
    (run host reader session world source).Matches (run host again session world other) := by
  obtain ⟨oneSession, oneWorld, oneTrace, oneEnding⟩ := run_eq_overLines host reader session world source
  obtain ⟨otherSession, otherWorld, otherTrace, otherEnding⟩ :=
    run_eq_overLines host again session world other
  refine ⟨?_, ?_, ?_, ?_, ?_⟩
  · rw [← Trace.output_unprompted, oneTrace, agree.output, ← otherTrace, Trace.output_unprompted]
  · rw [← Trace.failures_unprompted, oneTrace, agree.failures, ← otherTrace, Trace.failures_unprompted]
  · rw [oneSession, agree.session, otherSession]
  · rw [oneWorld, agree.world, otherWorld]
  · rw [oneEnding, agree.stop, same, otherEnding]

/-- Two groupings of the same elements into lines do the same, if no pipe's first command fails in the one.
If one does, all elements but those behind such a pipe on its line do what they do on lines of their own. -/
theorem run_regrouped {One Other : Type} {reader : LineReader One} {source : One}
    {again : LineReader Other} {other : Other} {chains chains' : List (List Element)}
    (read : ReadAs (reader.script source).1 chains) (read' : ReadAs (again.script other).1 chains')
    (same : (reader.script source).2 = (again.script other).2) (session : Session) (world : World) :
    (chains.flatten = chains'.flatten → ¬ Breaks host session world (reader.script source).1 →
        (run host reader session world source).Matches (run host again session world other)) ∧
      (∃ kept, Kept host session world chains kept) ∧
      ∀ kept, Kept host session world chains kept → chains' = kept.flatten.map ([·]) →
        (run host reader session world source).Matches (run host again session world other) := by
  obtain ⟨kept, isKept⟩ := exists_kept host session world chains
  obtain ⟨kept', isKept'⟩ := exists_kept host session world chains'
  have agree := isKept.agrees read
  have agree' := isKept'.agrees read'
  refine ⟨fun regrouped unbroken => ?_, ⟨kept, isKept⟩, fun kept isKept apart => ?_⟩
  · rw [breaks_iff read, not_exists] at unbroken
    rw [isKept.eq_of_unbroken unbroken] at agree
    rw [isKept'.eq_of_unbroken (regrouped ▸ unbroken), ← regrouped] at agree'
    exact matches_of_agrees (agree.symm.trans agree') same
  · have alone : ∀ chain ∈ chains', chain.length = 1 := by
      rw [apart]
      exact List.forall_mem_map.2 fun _ _ => rfl
    rw [isKept'.eq_of_singletons alone, apart, ← List.flatMap_def, List.flatMap_singleton'] at agree'
    exact matches_of_agrees ((isKept.agrees read).symm.trans agree') same

def joined : List Text :=
  ["a;b|c;exit 3;e".toList]

def parted : List Text :=
  [" a ", "b | c ; exit 3", "e;"].map (·.toList)

theorem run_regrouped_counting :
    let done := run counting .editor ⟨[], [], none⟩ 0 (joined.map .line)
    let again := run counting .editor ⟨[], [], none⟩ 0 (parted.map .line)
    done.Matches again ∧ done.session.history = ["a", "b | c", "exit 3"].map (·.toList) := by
  let first : Element := .single ⟨['a'], []⟩
  let pipe : Element := .piped ⟨['b'], []⟩ ⟨['c'], []⟩
  let exit : Element := .single ⟨"exit".toList, [['3']]⟩
  let last : Element := .single ⟨['e'], []⟩
  have read : ReadAs joined [[first, pipe, exit, last]] := .cons (by decide) .nil
  have read' : ReadAs parted [[first], [pipe, exit], [last]] :=
    .cons (by decide) (.cons (by decide) (.cons (by decide) .nil))
  have unbroken : ¬ Breaks counting ⟨[], [], none⟩ 0 joined := by
    have ended : (Session.run counting ⟨[], [], none⟩ 0 [first, pipe, exit, last]).ending =
        .terminated 3 := by decide +kernel
    rw [breaks_iff read]
    rintro ⟨error, aborted⟩
    cases ended.symm.trans aborted
  have typed : (LineReader.editor.script (joined.map .line)).1 = joined := by
    rw [LineReader.script_editor]
  have typed' : (LineReader.editor.script (parted.map .line)).1 = parted := by
    rw [LineReader.script_editor]
  rw [← typed] at read unbroken
  rw [← typed'] at read'
  have same : (LineReader.editor.script (joined.map .line)).2 =
      (LineReader.editor.script (parted.map .line)).2 := by
    rw [LineReader.script_editor, LineReader.script_editor]
  refine ⟨(run_regrouped read read' same ⟨[], [], none⟩ 0).1 rfl unbroken, ?_⟩
  rw [(run_eq_overLines counting .editor ⟨[], [], none⟩ 0 (joined.map .line)).1, LineReader.script_editor]
  decide +kernel

end ChainShell.Loop
