import ChainShell.Loop
import ChainShell.Proofs.Chain.RoundTrip
import ChainShell.Proofs.LineReader.Script
import ChainShell.Proofs.Session.Run

namespace ChainShell

namespace Loop

variable {World Source : Type} (host : Host World)

/-- What lines do: the session and the world that they leave, what happens meanwhile, and how they
end the loop, if they do. -/
structure Turn (World : Type) where
  session : Session
  world : World
  trace : List Event
  stop : Option Ending

def Turn.after (events : List Event) (turn : Turn World) : Turn World :=
  { turn with trace := events ++ turn.trace }

/-- What a line does whose chain has been run. -/
def Turn.ofRun (line : Text) (done : ChainShell.Outcome World) : Turn World :=
  match done.ending with
  | .completed => ⟨done.session, done.world, done.trace, none⟩
  | .aborted e => ⟨done.session, done.world, done.trace ++ [.discarded line (.exec e)], none⟩
  | .terminated code => ⟨done.session, done.world, done.trace ++ [.ended code], some (.exited code)⟩
  | .crashed fault => ⟨done.session, done.world, done.trace, some (.crashed fault)⟩

def turn (session : Session) (world : World) (line : Text) : Turn World :=
  match Chain.parse line with
  | .error e => ⟨session, world, [.discarded line (.parse e)], none⟩
  | .ok chain => .ofRun line (session.run host world chain)

/-- What lines do one after the other, up to the first that ends the loop. -/
def overLines (session : Session) (world : World) : List Text → Turn World
  | [] => ⟨session, world, [], none⟩
  | line :: rest =>
    let first := turn host session world line
    match first.stop with
    | none => (overLines first.session first.world rest).after first.trace
    | some _ => first

theorem overLines_cons_of_none {session : Session} {world : World} {line : Text}
    (going : (turn host session world line).stop = none) (rest : List Text) :
    overLines host session world (line :: rest) =
      (overLines host (turn host session world line).session (turn host session world line).world
        rest).after (turn host session world line).trace := by
  rw [overLines]
  simp only [going]

theorem overLines_cons_of_some {session : Session} {world : World} {line : Text} {ending : Ending}
    (stopped : (turn host session world line).stop = some ending) (rest : List Text) :
    overLines host session world (line :: rest) = turn host session world line := by
  rw [overLines]
  simp only [stopped]

/-- Lines behind lines that do not end the loop go on from what these leave. -/
theorem overLines_append_of_none {session : Session} {world : World} {lines : List Text}
    (going : (overLines host session world lines).stop = none) (more : List Text) :
    overLines host session world (lines ++ more) =
      (overLines host (overLines host session world lines).session
        (overLines host session world lines).world more).after
        (overLines host session world lines).trace := by
  induction lines generalizing session world with
  | nil => rfl
  | cons line rest ih =>
    cases stop : (turn host session world line).stop with
    | none =>
      rw [overLines_cons_of_none host stop] at going ⊢
      rw [List.cons_append, overLines_cons_of_none host stop, ih going]
      simp only [Turn.after, List.append_assoc]
    | some ending =>
      rw [overLines_cons_of_some host stop, stop] at going
      cases going

theorem overLines_append_of_some {session : Session} {world : World} {lines : List Text} {ending : Ending}
    (stopped : (overLines host session world lines).stop = some ending) (more : List Text) :
    overLines host session world (lines ++ more) = overLines host session world lines := by
  induction lines generalizing session world with
  | nil => cases stopped
  | cons line rest ih =>
    cases stop : (turn host session world line).stop with
    | none =>
      rw [overLines_cons_of_none host stop] at stopped
      rw [List.cons_append, overLines_cons_of_none host stop, overLines_cons_of_none host stop, ih stopped]
    | some ending => rw [List.cons_append, overLines_cons_of_some host stop, overLines_cons_of_some host stop]

theorem overLines_singleton (session : Session) (world : World) (line : Text) :
    overLines host session world [line] = turn host session world line := by
  cases stop : (turn host session world line).stop with
  | none =>
    rw [overLines_cons_of_none host stop]
    simp only [overLines, Turn.after, List.append_nil, ← stop]
  | some ending => exact overLines_cons_of_some host stop []

/-- A loop comes to a line, in the session and the world that the lines before it leave. -/
inductive Reaches : Session → World → List Text → Session → World → Text → Prop
  | here {session world line rest} : Reaches session world (line :: rest) session world line
  | later {session world first rest here there line} : (turn host session world first).stop = none →
      Reaches (turn host session world first).session (turn host session world first).world rest here there
        line → Reaches session world (first :: rest) here there line

/-- Lines end a loop as the first of them does that ends it. -/
theorem overLines_stop_iff {session : Session} {world : World} {lines : List Text} {ending : Ending} :
    (overLines host session world lines).stop = some ending ↔
      ∃ here there line, Reaches host session world lines here there line ∧
        (turn host here there line).stop = some ending := by
  constructor
  · intro stopped
    induction lines generalizing session world with
    | nil => cases stopped
    | cons line rest ih =>
      cases stop : (turn host session world line).stop with
      | none =>
        rw [overLines_cons_of_none host stop] at stopped
        obtain ⟨here, there, last, reached, lastStopped⟩ := ih stopped
        exact ⟨here, there, last, .later stop reached, lastStopped⟩
      | some other =>
        rw [overLines_cons_of_some host stop] at stopped
        exact ⟨session, world, line, .here, stopped⟩
  · rintro ⟨here, there, line, reached, stopped⟩
    induction reached with
    | here => rw [overLines_cons_of_some host stopped, stopped]
    | later going _ ih =>
      rw [overLines_cons_of_none host going]
      exact ih stopped

theorem turn_of_refused {line : Text} {error : ParseError} (refused : Chain.parse line = .error error)
    (session : Session) (world : World) :
    turn host session world line = ⟨session, world, [.discarded line (.parse error)], none⟩ := by
  simp only [turn, refused]

theorem turn_of_read {line : Text} {chain : List Element} (read : Chain.parse line = .ok chain)
    (session : Session) (world : World) :
    turn host session world line = .ofRun line (session.run host world chain) := by
  rw [turn, read]

/-- What ends the loop is in the run of a chain. -/
theorem turn_stop_iff {session : Session} {world : World} {line : Text} {ending : Ending} :
    (turn host session world line).stop = some ending ↔
      ∃ chain, Chain.parse line = .ok chain ∧
        (Turn.ofRun line (session.run host world chain)).stop = some ending := by
  cases read : Chain.parse line with
  | error error =>
    rw [turn_of_refused host read]
    constructor
    · intro stopped
      cases stopped
    · rintro ⟨_, ⟨⟩, _⟩
  | ok chain =>
    rw [turn_of_read host read]
    constructor
    · exact fun stopped => ⟨chain, rfl, stopped⟩
    · rintro ⟨_, ⟨⟩, stopped⟩
      exact stopped

theorem turn_text {element : Element} (plain : element.Plain) (session : Session) (world : World) :
    turn host session world element.text = .ofRun element.text (session.step host world element) := by
  rw [turn_of_read host (Chain.parse_text plain), Session.run_singleton]

theorem Turn.ofRun_session (line : Text) (done : ChainShell.Outcome World) :
    (ofRun line done).session = done.session := by
  rw [ofRun]
  split <;> rfl

theorem Turn.ofRun_after (line : Text) (events : List Event) (done : ChainShell.Outcome World) :
    ofRun line (done.after events) = (ofRun line done).after events := by
  rw [ofRun, ofRun, ChainShell.Outcome.after_ending]
  split <;> simp only [ChainShell.Outcome.after, after, List.append_assoc]

theorem Turn.ofRun_exited_iff {line : Text} {done : ChainShell.Outcome World} {code : Int} :
    (ofRun line done).stop = some (.exited code) ↔ done.ending = .terminated code := by
  rw [ofRun]
  cases done.ending <;> simp

theorem Turn.ofRun_crashed_iff {line : Text} {done : ChainShell.Outcome World} {fault : Fault} :
    (ofRun line done).stop = some (.crashed fault) ↔ done.ending = .crashed fault := by
  rw [ofRun]
  cases done.ending <;> simp

/-- Lines end a loop by `exit` or by a fault; a read that fails is no line. -/
theorem turn_stop_ne_unread (session : Session) (world : World) (line : Text) (failure : ReadFailure) :
    (turn host session world line).stop ≠ some (.unread failure) := by
  rw [turn]
  split
  · simp
  · rw [Turn.ofRun]
    split <;> simp

theorem overLines_stop_ne_unread (session : Session) (world : World) (lines : List Text)
    (failure : ReadFailure) : (overLines host session world lines).stop ≠ some (.unread failure) := by
  induction lines generalizing session world with
  | nil => simp [overLines]
  | cons line rest ih =>
    cases stop : (turn host session world line).stop with
    | none =>
      rw [overLines_cons_of_none host stop]
      exact ih _ _
    | some ending =>
      rw [overLines_cons_of_some host stop]
      exact turn_stop_ne_unread host session world line failure

theorem unprompted_turn (session : Session) (world : World) (line : Text) :
    Trace.unprompted (turn host session world line).trace = (turn host session world line).trace := by
  rw [turn]
  split
  · rfl
  · rename_i chain _
    have clean := Session.unprompted_run host session world chain
    rw [Turn.ofRun]
    split
    · exact clean
    · rw [Trace.unprompted_append, clean]
      rfl
    · rw [Trace.unprompted_append, clean]
      rfl
    · exact clean

variable {reader : LineReader Source} {source rest : Source}

theorem run_of_failure {failure : ReadFailure} (answer : reader.read source = (.error failure, rest))
    (session : Session) (world : World) : run host reader session world source =
      ⟨session, world, rest, reader.prompting, .unread failure⟩ := by
  rw [run]
  split <;> rename_i answer' <;> rw [answer] at answer' <;> cases answer'
  rfl

theorem run_of_line {line : Text} (answer : reader.read source = (.ok line, rest))
    (session : Session) (world : World) : run host reader session world source =
      let first := turn host session world line
      match first.stop with
      | none => (run host reader first.session first.world rest).after (reader.prompting ++ first.trace)
      | some ending => ⟨first.session, first.world, rest, reader.prompting ++ first.trace, ending⟩ := by
  rw [run]
  split <;> rename_i answer' <;> rw [answer] at answer' <;> cases answer'
  cases read : Chain.parse line with
  | error e => simp only [turn, read]
  | ok chain =>
    simp only [turn, read, Turn.ofRun]
    cases ending : (session.run host world chain).ending <;> simp only [List.append_assoc]

/-- A loop leaves what its lines leave, and ends as they end it, or else by the read that failed. -/
theorem run_eq_overLines (reader : LineReader Source) (session : Session) (world : World) (source : Source) :
    (run host reader session world source).session =
        (overLines host session world (reader.script source).1).session ∧
      (run host reader session world source).world =
        (overLines host session world (reader.script source).1).world ∧
      Trace.unprompted (run host reader session world source).trace =
        (overLines host session world (reader.script source).1).trace ∧
      (run host reader session world source).ending =
        (overLines host session world (reader.script source).1).stop.getD
          (.unread (reader.script source).2) := by
  induction size : reader.remaining source using Nat.strongRecOn generalizing session world source with
  | ind size ih =>
    rcases answered : reader.read source with ⟨failure | line, rest⟩
    · rw [run_of_failure host answered, LineReader.script_of_failure answered]
      exact ⟨rfl, rfl, Trace.unprompted_prompting reader, rfl⟩
    · have shorter := reader.remaining_lt source line rest answered
      rw [run_of_line host answered, LineReader.script_of_line answered]
      have clean := unprompted_turn host session world line
      cases stop : (turn host session world line).stop with
      | none =>
        obtain ⟨sameSession, sameWorld, sameTrace, sameEnding⟩ := ih _ (size ▸ shorter)
          (turn host session world line).session (turn host session world line).world rest rfl
        simp only [stop, overLines_cons_of_none host stop]
        refine ⟨sameSession, sameWorld, ?_, sameEnding⟩
        simp only [Outcome.after, Turn.after, Trace.unprompted_append, Trace.unprompted_prompting, clean,
          sameTrace, List.nil_append]
      | some ending =>
        simp only [stop, overLines_cons_of_some host stop]
        refine ⟨trivial, trivial, ?_, rfl⟩
        rw [Trace.unprompted_append, Trace.unprompted_prompting, clean, List.nil_append]

end Loop

end ChainShell
