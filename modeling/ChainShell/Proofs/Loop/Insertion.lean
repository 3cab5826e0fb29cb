import ChainShell.Proofs.Loop.Exit
import ChainShell.Proofs.Loop.Grouping

namespace ChainShell

/-- The last list is the first with the items of the second put in between, both in their order. -/
inductive Inserts {α : Type} : List α → List α → List α → Prop
  | nil : Inserts [] [] []
  | keep {item original inserted result} : Inserts original inserted result →
      Inserts (item :: original) inserted (item :: result)
  | insert {item original inserted result} : Inserts original inserted result →
      Inserts original (item :: inserted) (item :: result)

namespace Inserts

variable {α : Type}

theorem append_left {original inserted result : List α} (inserts : Inserts original inserted result)
    (items : List α) : Inserts (items ++ original) inserted (items ++ result) := by
  induction items with
  | nil => exact inserts
  | cons item rest ih => exact .keep ih

theorem refl (items : List α) : Inserts items [] items := by
  have inserts := append_left .nil items
  rwa [List.append_nil] at inserts

end Inserts

namespace Loop

/-- Lines that come to nothing: blank ones, and those that are no chains. -/
def Idle (line : Text) : Prop :=
  (∀ c ∈ line, Text.isBlank c = true) ∨ ∃ error, Chain.parse line = .error error

/-- What is said of a line that is no chain. -/
def refusal? (line : Text) : Option (Text × ShellError) :=
  match Chain.parse line with
  | .error error => some (line, .parse error)
  | .ok _ => none

end Loop

namespace LineReader.EditorEvent

/-- The line that an answer of an editor stands for; an interrupted one is empty. -/
def typed : EditorEvent → Text
  | .line text => text
  | _ => []

/-- An interrupt, or a line that comes to nothing. -/
inductive Idle : EditorEvent → Prop
  | interrupt : Idle .interrupt
  | line {text} : Loop.Idle text → Idle (.line text)

theorem Idle.typed {event : EditorEvent} (idle : event.Idle) : Loop.Idle event.typed := by
  cases idle with
  | interrupt =>
    refine .inl fun c inside => ?_
    cases inside
  | line idle => exact idle

/-- An answer gives a line, or it is why there is none. -/
theorem read_cons (event : EditorEvent) :
    (∀ rest, editor.read (event :: rest) = (.ok event.typed, rest)) ∨
      ∃ failure, ∀ rest, editor.read (event :: rest) = (.error failure, rest) := by
  cases event with
  | line text => exact .inl fun _ => rfl
  | interrupt => exact .inl fun _ => rfl
  | closed message => exact .inr ⟨_, fun _ => rfl⟩
  | broken message => exact .inr ⟨_, fun _ => rfl⟩

theorem Idle.read_cons {event : EditorEvent} (idle : event.Idle) (rest : List EditorEvent) :
    editor.read (event :: rest) = (.ok event.typed, rest) := by
  cases idle <;> rfl

/-- Of the answers that are put between those of an editor, the ones before its end are lines put between its
lines. -/
theorem exists_script {events inserted events' : List EditorEvent} (inserts : Inserts events inserted events')
    (idle : ∀ event ∈ inserted, event.Idle) :
    ∃ lines, lines <+: inserted.map typed ∧
      Inserts (editor.script events).1 lines (editor.script events').1 ∧
      (editor.script events).2 = (editor.script events').2 := by
  induction inserts with
  | nil => exact ⟨[], List.nil_prefix, .refl _, rfl⟩
  | @keep event events inserted events' _ ih =>
    rcases event.read_cons with answer | ⟨failure, answer⟩
    · obtain ⟨lines, start, lined, same⟩ := ih idle
      rw [script_of_line (answer events), script_of_line (answer events')]
      exact ⟨lines, start, .keep lined, same⟩
    · rw [script_of_failure (answer events), script_of_failure (answer events')]
      exact ⟨[], List.nil_prefix, .nil, rfl⟩
  | @insert event events inserted events' _ ih =>
    rw [List.forall_mem_cons] at idle
    obtain ⟨lines, start, lined, same⟩ := ih idle.2
    have begun : event.typed :: lines <+: event.typed :: inserted.map typed :=
      List.cons_prefix_cons.2 ⟨rfl, start⟩
    rw [script_of_line (idle.1.read_cons events')]
    exact ⟨event.typed :: lines, begun, .insert lined, same⟩

end LineReader.EditorEvent

namespace Loop

variable {World : Type} (host : Host World)

/-- All that an idle line does is that it is spoken of, if it is no chain. -/
structure Turn.Idles (session : Session) (world : World) (line : Text) (turn : Turn World) : Prop where
  session : turn.session = session
  world : turn.world = world
  trace : Trace.undiscarded turn.trace = []
  discards : Trace.discards turn.trace = (refusal? line).toList
  stop : turn.stop = none

theorem idles_turn {line : Text} (idle : Idle line) (session : Session) (world : World) :
    (turn host session world line).Idles session world line := by
  rcases idle with blank | ⟨error, refused⟩
  · have read := Chain.parse_of_blanks blank
    have silent : refusal? line = none := by rw [refusal?, read]
    rw [turn_of_read host read]
    exact ⟨rfl, rfl, rfl, by rw [silent]; rfl, rfl⟩
  · have told : refusal? line = some (line, .parse error) := by rw [refusal?, refused]
    rw [turn_of_refused host refused]
    exact ⟨rfl, rfl, rfl, by rw [told]; rfl, rfl⟩

variable {host}

/-- Lines do what they do with idle lines in between, but for what is said of these. -/
theorem agrees_of_inserts {lines inserted lines' : List Text} (inserts : Inserts lines inserted lines')
    (idle : ∀ line ∈ inserted, Idle line) (session : Session) (world : World) :
    Turn.Agrees (overLines host session world lines) (overLines host session world lines') := by
  induction inserts generalizing session world with
  | nil => exact .refl _
  | @keep line lines inserted lines' _ ih =>
    cases stop : (turn host session world line).stop with
    | none =>
      rw [overLines_cons_of_none host stop, overLines_cons_of_none host stop]
      exact (ih idle _ _).after rfl
    | some ending =>
      rw [overLines_cons_of_some host stop, overLines_cons_of_some host stop]
      exact .refl _
  | @insert line lines inserted lines' _ ih =>
    rw [List.forall_mem_cons] at idle
    have passes := idles_turn host idle.1 session world
    rw [overLines_cons_of_none host passes.stop, passes.session, passes.world]
    have silent : Trace.undiscarded [] = Trace.undiscarded (turn host session world line).trace :=
      passes.trace.symm
    exact (ih idle.2 session world).trans ((Turn.Agrees.refl _).after silent)

/-- Where lines are cut, they are cut with idle lines in between; of these, the ones up to there are read, and
it is said of each of them what is to be said. -/
theorem exists_read {lines inserted lines' : List Text} (inserts : Inserts lines inserted lines')
    (idle : ∀ line ∈ inserted, Idle line) (session : Session) (world : World) :
    ∃ count count' stop read, Cut (Place.Ends host) (places host session world lines) count stop ∧
      Cut (Place.Ends host) (places host session world lines') count' stop ∧
      read <+: inserted ∧ Inserts (lines.take count) read (lines'.take count') ∧
      Inserts (Trace.discards (overLines host session world lines).trace) (read.filterMap refusal?)
        (Trace.discards (overLines host session world lines').trace) := by
  induction inserts generalizing session world with
  | nil => exact ⟨0, 0, none, [], .nil, .nil, List.prefix_rfl, .nil, .nil⟩
  | @keep line lines inserted lines' _ ih =>
    cases stop : (turn host session world line).stop with
    | none =>
      obtain ⟨count, count', last, read, cut, cut', start, lined, told⟩ := ih idle
        (turn host session world line).session (turn host session world line).world
      rw [overLines_cons_of_none host stop, overLines_cons_of_none host stop, Turn.after, Turn.after,
        Trace.discards_append, Trace.discards_append]
      exact ⟨count + 1, count' + 1, last, read, cut_cons_of_none host stop cut,
        cut_cons_of_none host stop cut', start, .keep lined, told.append_left _⟩
    | some ending =>
      rw [overLines_cons_of_some host stop, overLines_cons_of_some host stop]
      exact ⟨1, 1, some ending, [], cut_cons_of_some host stop _, cut_cons_of_some host stop _,
        List.nil_prefix, .refl [line], .refl _⟩
  | @insert line lines inserted lines' _ ih =>
    rw [List.forall_mem_cons] at idle
    have passes := idles_turn host idle.1 session world
    obtain ⟨count, count', last, read, cut, cut', start, lined, told⟩ := ih idle.2 session world
    have begun : line :: read <+: line :: inserted := List.cons_prefix_cons.2 ⟨rfl, start⟩
    -- the idle line leaves the session and the world as it found them, so the rest is cut as without it
    have further : Cut (Place.Ends host) (places host (turn host session world line).session
        (turn host session world line).world lines') count' last := by
      rw [passes.session, passes.world]
      exact cut'
    refine ⟨count, count' + 1, last, line :: read, cut, cut_cons_of_none host passes.stop further, begun,
      .insert lined, ?_⟩
    rw [overLines_cons_of_none host passes.stop, Turn.after, Trace.discards_append, passes.discards,
      passes.session, passes.world]
    cases told' : refusal? line with
    | none =>
      rw [List.filterMap_cons_none told']
      exact told
    | some refusal =>
      rw [List.filterMap_cons_some told']
      exact .insert told

variable (host)

/-- What comes of lines when idle ones are put between them. The same children are called, the same is
written, told of elements and left, and the loop ends the same way. Of the lines that are put in, those up to
some are read where the others are; and of each of these that is no chain it is said so, besides what is said
anyway. -/
structure Untraced {One Other : Type} (session : Session) (world : World) (reader : LineReader One)
    (source : One) (again : LineReader Other) (other : Other) (inserted : List Text) : Prop where
  same : (run host reader session world source).Matches (run host again session world other)
  calls : Trace.calls (run host reader session world source).trace =
    Trace.calls (run host again session world other).trace
  read : ∃ read visited visited' failed,
    Reads host reader source visited failed (run host reader session world source) ∧
      Reads host again other visited' failed (run host again session world other) ∧
      read <+: inserted ∧ Inserts (visited.map (·.item)) read (visited'.map (·.item)) ∧
      Inserts (Trace.discards (run host reader session world source).trace) (read.filterMap refusal?)
        (Trace.discards (run host again session world other).trace)

theorem untraced_of_inserts {One Other : Type} {reader : LineReader One} {source : One}
    {again : LineReader Other} {other : Other} {inserted : List Text}
    (inserts : Inserts (reader.script source).1 inserted (again.script other).1)
    (idle : ∀ line ∈ inserted, Idle line) (same : (reader.script source).2 = (again.script other).2)
    (session : Session) (world : World) :
    Untraced host session world reader source again other inserted := by
  have agree : Turn.Agrees (overLines host session world (reader.script source).1)
      (overLines host session world (again.script other).1) := agrees_of_inserts inserts idle session world
  obtain ⟨-, -, trace, -⟩ := run_eq_overLines host reader session world source
  obtain ⟨-, -, trace', -⟩ := run_eq_overLines host again session world other
  refine ⟨matches_of_agrees agree same, ?_, ?_⟩
  · rw [← Trace.calls_unprompted, trace, agree.calls, ← trace', Trace.calls_unprompted]
  · obtain ⟨count, count', stop, read, cut, cut', start, lined, told⟩ :=
      exists_read inserts idle session world
    have visits : Reads host reader source _ _ _ := (run_of_cut cut).2
    have visits' : Reads host again other _ _ _ := (run_of_cut cut').2
    rw [← same] at visits'
    refine ⟨read, _, _, _, visits, visits', start, ?_, ?_⟩
    · rw [List.map_take, List.map_take, places, places, course_map_item, course_map_item]
      exact lined
    · rw [← Trace.discards_unprompted, trace, ← Trace.discards_unprompted (run host again _ _ _).trace, trace']
      exact told

theorem Untraced.mono {One Other : Type} {session : Session} {world : World} {reader : LineReader One}
    {source : One} {again : LineReader Other} {other : Other} {inserted more : List Text}
    (untraced : Untraced host session world reader source again other inserted) (start : inserted <+: more) :
    Untraced host session world reader source again other more := by
  obtain ⟨read, visited, visited', failed, visits, visits', begun, lined, told⟩ := untraced.read
  exact ⟨untraced.same, untraced.calls, read, visited, visited', failed, visits, visits', begun.trans start,
    lined, told⟩

/-- Idle lines put between the lines of any reader leave no trace, but that each of them that is read and is no
chain is spoken of; and neither do interrupts and idle lines put between the answers of an editor. -/
theorem idle_lines_leave_no_trace (session : Session) (world : World) :
    (∀ (One Other : Type) (reader : LineReader One) (source : One) (again : LineReader Other) (other : Other)
        (inserted : List Text), Inserts (reader.script source).1 inserted (again.script other).1 →
        (∀ line ∈ inserted, Idle line) → (reader.script source).2 = (again.script other).2 →
          Untraced host session world reader source again other inserted) ∧
      ∀ events inserted events', Inserts events inserted events' → (∀ event ∈ inserted, event.Idle) →
        Untraced host session world .editor events .editor events'
          (inserted.map LineReader.EditorEvent.typed) := by
  refine ⟨fun _ _ _ _ _ _ _ inserts idle same => untraced_of_inserts host inserts idle same session world, ?_⟩
  intro events inserted events' inserts idle
  obtain ⟨lines, start, lined, same⟩ := LineReader.EditorEvent.exists_script inserts idle
  have idleLines : ∀ line ∈ lines, Idle line := by
    intro line inside
    obtain ⟨event, listed, rfl⟩ := List.mem_map.1 (start.subset inside)
    exact (idle event listed).typed
  exact (untraced_of_inserts host lined idleLines same session world).mono host start

/-- What is typed: a command, a pipe with a command behind it, `exit`, and a command behind that. -/
def asked : List Text :=
  ["a", "b | c; no", "exit 3", "e"].map (·.toList)

/-- What is typed in between, behind an interrupt: a line that is no chain although it begins with a `cd` and an
`exit`, a blank line, and behind the `exit` that is granted another line that is no chain. -/
def idling : List Text :=
  ["cd home; exit 4; a |", "  ", "x || y"].map (·.toList)

def mixed : List Text :=
  ["a", "cd home; exit 4; a |", "b | c; no", "  ", "exit 3", "x || y", "e"].map (·.toList)

theorem idle_lines_leave_no_trace_counting :
    let fresh : Session := ⟨[], [], none⟩
    let done := run counting .editor fresh 0 (.interrupt :: mixed.map .line)
    Untraced counting fresh 0 .editor (asked.map .line) .editor (.interrupt :: mixed.map .line)
        ([] :: idling) ∧
      done.ending = .exited 3 ∧
      done.session = ⟨[], ["a", "b | c", "no", "exit 3"].map (·.toList), none⟩ ∧
      Trace.discards done.trace = [("cd home; exit 4; a |".toList, .parse .noCommand)] := by
  intro fresh done
  have inserts : Inserts (asked.map .line) (.interrupt :: idling.map .line)
      (.interrupt :: mixed.map LineReader.EditorEvent.line) :=
    .insert (.keep (.insert (.keep (.insert (.keep (.insert (.keep .nil)))))))
  have idle : ∀ event ∈ LineReader.EditorEvent.interrupt :: idling.map .line, event.Idle := by
    refine List.forall_mem_cons.2 ⟨.interrupt, List.forall_mem_map.2 ?_⟩
    intro line inside
    refine .line ?_
    rcases List.mem_cons.1 inside with rfl | inside
    · exact .inr ⟨.noCommand, by decide +kernel⟩
    · rcases List.mem_cons.1 inside with rfl | inside
      · exact .inl (List.all_eq_true.1 (by decide))
      · rw [List.mem_singleton.1 inside]
        exact .inr ⟨.tooManyStages "x || y".toList, by decide +kernel⟩
  have answer : LineReader.editor.read (.interrupt :: mixed.map .line) = (.ok [], mixed.map .line) := rfl
  obtain ⟨session, -, trace, ending⟩ :=
    run_eq_overLines counting .editor fresh 0 (.interrupt :: mixed.map .line)
  rw [LineReader.script_of_line answer, LineReader.script_editor] at session trace ending
  refine ⟨(idle_lines_leave_no_trace counting fresh 0).2 _ _ _ inserts idle, ?_, ?_, ?_⟩
  · rw [ending]
    decide +kernel
  · rw [session]
    decide +kernel
  · rw [← Trace.discards_unprompted, trace]
    decide +kernel

end Loop

end ChainShell
