import ChainShell.Proofs.Loop.Lines
import ChainShell.Proofs.Session.Telling

namespace ChainShell.Loop

variable {World Source Kept : Type}

/-- What is left after a loop with listeners, with a trace of what was done. -/
structure Told (World Source Kept : Type) extends Outcome World Source where
  kept : Kept

def Told.after (deeds : List Event) (told : Told World Source Kept) : Told World Source Kept :=
  ⟨told.toOutcome.after deeds, told.kept⟩

/-- Runs lines from a source until something ends the loop, and tells of lines that are given up and of
the end by `exit`. -/
def runTelling (host : Host World) (listeners : Listeners World Kept) (reader : LineReader Source)
    (session : Session) (world : World) (kept : Kept) (source : Source) : Told World Source Kept :=
  match _answer : reader.read source with
  | (.error failure, rest) => ⟨⟨session, world, rest, reader.prompting, .unread failure⟩, kept⟩
  | (.ok line, rest) =>
    match Chain.parse line with
    | .error e =>
      (runTelling host listeners reader session world
        (listeners.hear session world kept (.discarded line (.parse e))) rest).after reader.prompting
    | .ok chain =>
      let told := session.runTelling host listeners world kept chain
      let deeds := reader.prompting ++ told.trace
      match told.ending with
      | .completed =>
        (runTelling host listeners reader told.session told.world told.kept rest).after deeds
      | .aborted e =>
        (runTelling host listeners reader told.session told.world
          (listeners.hear told.session told.world told.kept (.discarded line (.exec e))) rest).after deeds
      | .terminated code =>
        ⟨⟨told.session, told.world, rest, deeds, .exited code⟩,
          listeners.hear told.session told.world told.kept (.ended code)⟩
      | .crashed fault => ⟨⟨told.session, told.world, rest, deeds, .crashed fault⟩, told.kept⟩
termination_by reader.remaining source
decreasing_by all_goals exact reader.remaining_lt source _ _ _answer

def Outcome.deeds (outcome : Outcome World Source) : Outcome World Source :=
  { outcome with trace := Trace.deeds outcome.trace }

/-- A loop with listeners does what the loop without them does, and they are told of all that it
tells. -/
structure Told.Agrees (listeners : Listeners World Kept) (kept : Kept) (told : Told World Source Kept)
    (outcome : Outcome World Source) : Prop where
  deeds : told.toOutcome = outcome.deeds
  heard : listeners.Hear kept outcome.trace told.kept

variable (host : Host World) (listeners : Listeners World Kept) (reader : LineReader Source)

theorem deeds_prompting : Trace.deeds reader.prompting = reader.prompting := by
  rw [LineReader.prompting]
  split <;> rfl

theorem hear_prompting (session : Session) (world : World) (kept : Kept) :
    listeners.Hear kept reader.prompting kept := by
  rw [LineReader.prompting]
  split
  · exact .nil
  · exact .cons session world .nil

variable {listeners}

/-- What was done and told before stands in front of what agrees from there on. -/
theorem Told.Agrees.after {before kept : Kept} {events deeds : List Event} {told : Told World Source Kept}
    {outcome : Outcome World Source} (agrees : told.Agrees listeners kept outcome)
    (heard : listeners.Hear before events kept) (done : Trace.deeds events = deeds) :
    (told.after deeds).Agrees listeners before (outcome.after events) := by
  refine ⟨?_, heard.append agrees.heard⟩
  rw [Told.after, agrees.deeds, ← done]
  simp only [Outcome.after, Outcome.deeds, Trace.deeds_append]

variable (listeners)

/-- What is done and heard when a chain is run behind its prompt. -/
theorem prompted_agrees (session : Session) (world : World) (kept : Kept) (chain : List Element) :
    let told := session.runTelling host listeners world kept chain
    let events := reader.prompting ++ (session.run host world chain).trace
    listeners.Hear kept events told.kept ∧ Trace.deeds events = reader.prompting ++ told.trace := by
  obtain ⟨deeds, heard⟩ := Session.runTelling_agrees host listeners session world kept chain
  refine ⟨(hear_prompting listeners reader session world kept).append heard, ?_⟩
  rw [Trace.deeds_append, deeds_prompting, deeds]
  rfl

variable {reader}

/-- How a loop goes on behind a line is decided by what its chain leaves, told or not. -/
theorem run_of_told {source rest : Source} {line : Text} {chain : List Element}
    (answer : reader.read source = (.ok line, rest)) (read : Chain.parse line = .ok chain)
    (session : Session) (world : World) (kept : Kept) :
    run host reader session world source =
      let told := session.runTelling host listeners world kept chain
      let events := reader.prompting ++ (session.run host world chain).trace
      match told.ending with
      | .completed => (run host reader told.session told.world rest).after events
      | .aborted e =>
        (run host reader told.session told.world rest).after (events ++ [.discarded line (.exec e)])
      | .terminated code => ⟨told.session, told.world, rest, events ++ [.ended code], .exited code⟩
      | .crashed fault => ⟨told.session, told.world, rest, events, .crashed fault⟩ := by
  have agrees := Session.runTelling_agrees host listeners session world kept chain
  rw [run_of_line host answer, turn_of_read host read]
  simp only [agrees.deeds, ChainShell.Outcome.deeds, Turn.ofRun]
  cases (session.run host world chain).ending with
  | completed | crashed => rfl
  | aborted | terminated => simp only [List.append_assoc]

variable (reader)

theorem runTelling_agrees (session : Session) (world : World) (kept : Kept) (source : Source) :
    (runTelling host listeners reader session world kept source).Agrees listeners kept
      (run host reader session world source) := by
  fun_induction runTelling host listeners reader session world kept source with
  | case1 session world kept source failure rest answer =>
    rw [run_of_failure host answer]
    exact ⟨by rw [Outcome.deeds, deeds_prompting], hear_prompting listeners reader session world kept⟩
  | case2 session world kept source line rest answer e refused ih =>
    -- The prompt is done, and the line's error is told: the one is shown, the other only heard of.
    rw [run_of_line host answer, turn_of_refused host refused]
    refine ih.after ((hear_prompting listeners reader session world kept).append (.cons session world .nil)) ?_
    rw [Trace.deeds_concat rfl, deeds_prompting]
  | case3 session world kept source line rest answer chain read told deeds completed ih =>
    obtain ⟨heard, shown⟩ := prompted_agrees host listeners reader session world kept chain
    have ended : (session.runTelling host listeners world kept chain).ending = .completed := completed
    simp only [run_of_told host listeners answer read session world kept, ended]
    exact ih.after heard shown
  | case4 session world kept source line rest answer chain read told deeds e aborted ih =>
    obtain ⟨heard, shown⟩ := prompted_agrees host listeners reader session world kept chain
    have ended : (session.runTelling host listeners world kept chain).ending = .aborted e := aborted
    simp only [run_of_told host listeners answer read session world kept, ended]
    refine ih.after (heard.append (.cons told.session told.world .nil)) ?_
    rw [Trace.deeds_concat rfl, shown]
  | case5 session world kept source line rest answer chain read told deeds code terminated =>
    obtain ⟨heard, shown⟩ := prompted_agrees host listeners reader session world kept chain
    have ended : (session.runTelling host listeners world kept chain).ending = .terminated code := terminated
    simp only [run_of_told host listeners answer read session world kept, ended]
    refine ⟨?_, heard.append (.cons told.session told.world .nil)⟩
    rw [Outcome.deeds, Trace.deeds_concat rfl, shown]
  | case6 session world kept source line rest answer chain read told deeds fault crashed =>
    obtain ⟨heard, shown⟩ := prompted_agrees host listeners reader session world kept chain
    have ended : (session.runTelling host listeners world kept chain).ending = .crashed fault := crashed
    simp only [run_of_told host listeners answer read session world kept, ended]
    exact ⟨by rw [Outcome.deeds, shown], heard⟩

end ChainShell.Loop
