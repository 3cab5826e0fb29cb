import ChainShell.Proofs.Loop.Faults
import ChainShell.Proofs.Session.Calls

namespace ChainShell

variable {World Source : Type} (host : Host World)

namespace Place

def turn (place : Place World Text) : Loop.Turn World :=
  Loop.turn host place.session place.world place.item

/-- The line is a chain that comes to an `exit` that stands alone and is granted its code. -/
inductive Exits (place : Place World Text) : Loop.Ending → Prop
  | intro {chain here there command code} : Chain.parse place.item = .ok chain →
      Session.Reaches host place.session place.world chain here there (.single command) →
      command.name = "exit".toList → ExitRequest.ofArgs command.args = .code code →
      Exits place (.exited code)

/-- The line is a chain that comes to an element that faults. -/
inductive Crashes (place : Place World Text) : Loop.Ending → Prop
  | intro {chain here there element fault} : Chain.parse place.item = .ok chain →
      Session.Reaches host place.session place.world chain here there element →
      here.Faults host there element fault → Crashes place (.crashed fault)

def Ends (place : Place World Text) (ending : Loop.Ending) : Prop :=
  place.Exits host ending ∨ place.Crashes host ending

variable {host}

theorem exits_iff {place : Place World Text} {code : Int} :
    place.Exits host (.exited code) ↔ (place.turn host).stop = some (.exited code) := by
  rw [turn, Loop.turn_stop_iff]
  simp only [Loop.Turn.ofRun_exited_iff, Session.run_terminated_iff]
  constructor
  · intro exits
    cases exits with
    | intro read reached named granted => exact ⟨_, read, _, _, _, reached, named, granted⟩
  · rintro ⟨chain, read, here, there, command, reached, named, granted⟩
    exact .intro read reached named granted

theorem crashes_iff {place : Place World Text} {fault : Fault} :
    place.Crashes host (.crashed fault) ↔ (place.turn host).stop = some (.crashed fault) := by
  rw [turn, Loop.turn_crashed_iff]
  simp only [Session.run_crashed_iff]
  constructor
  · intro crashes
    cases crashes with
    | intro read reached faults => exact ⟨_, read, _, _, _, reached, faults⟩
  · rintro ⟨chain, read, here, there, element, reached, faults⟩
    exact .intro read reached faults

theorem ends_iff {place : Place World Text} {ending : Loop.Ending} :
    place.Ends host ending ↔ (place.turn host).stop = some ending := by
  cases ending with
  | exited code =>
    rw [← exits_iff]
    refine ⟨fun ends => ?_, .inl⟩
    rcases ends with exits | crashes
    · exact exits
    · cases crashes
  | crashed fault =>
    rw [← crashes_iff]
    refine ⟨fun ends => ?_, .inr⟩
    rcases ends with exits | crashes
    · cases exits
    · exact crashes
  | unread failure =>
    constructor
    · rintro (exits | crashes)
      · cases exits
      · cases crashes
    · exact fun unread => absurd unread (Loop.turn_stop_ne_unread host _ _ _ failure)

theorem ends_mk_iff {session : Session} {world : World} {line : Text} {ending : Loop.Ending} :
    Ends host ⟨session, world, line⟩ ending ↔ (Loop.turn host session world line).stop = some ending :=
  ends_iff

/-- A line does not both come to an `exit` and to an element that faults. -/
theorem not_crashes_of_exits {place : Place World Text} {ending : Loop.Ending}
    (exits : place.Exits host ending) : ¬ ∃ other, place.Crashes host other := by
  rintro ⟨other, crashes⟩
  have ended := ends_iff.1 (.inl exits)
  have crashed := ends_iff.1 (.inr crashes)
  cases Option.some.inj (ended.symm.trans crashed)
  cases exits
  cases crashes

theorem transcript_turn (place : Place World Text) :
    Trace.transcript (place.turn host).trace = Trace.output (place.turn host).trace := by
  have clean := Loop.unprompted_turn host place.session place.world place.item
  rw [← Trace.transcript_unprompted, turn, clean]

theorem turn_limit (place : Place World Text) :
    (place.turn host).session.limit = place.session.limit := by
  rw [turn, Loop.turn]
  split
  · rfl
  · rw [Loop.Turn.ofRun_session, Session.run_limit]

end Place

namespace Loop

/-- Lines, each with the session and the world that the lines before it leave. -/
def places (session : Session) (world : World) (lines : List Text) : List (Place World Text) :=
  course (fun place => ((place.turn host).session, (place.turn host).world)) session world lines

theorem places_cons (session : Session) (world : World) (line : Text) (rest : List Text) :
    places host session world (line :: rest) = ⟨session, world, line⟩ ::
      places host (turn host session world line).session (turn host session world line).world rest := rfl

/-- A line that does not end the loop leaves the cut to those behind it. -/
theorem cut_cons_of_none {session : Session} {world : World} {line : Text}
    (going : (turn host session world line).stop = none) {rest : List Text} {count : Nat}
    {stop : Option Ending}
    (cut : Cut (Place.Ends host) (places host (turn host session world line).session
      (turn host session world line).world rest) count stop) :
    Cut (Place.Ends host) (places host session world (line :: rest)) (count + 1) stop := by
  refine .later (fun ending ends => ?_) cut
  cases going.symm.trans (Place.ends_mk_iff.1 ends)

theorem cut_cons_of_some {session : Session} {world : World} {line : Text} {ending : Ending}
    (stopped : (turn host session world line).stop = some ending) (rest : List Text) :
    Cut (Place.Ends host) (places host session world (line :: rest)) 1 (some ending) :=
  .here (Place.ends_mk_iff.2 stopped)

/-- A loop has read the lines of these places, and then what failed, and nothing else. It has shown a prompt
before each read, and behind the prompt what the line wrote. -/
structure Reads (reader : LineReader Source) (source : Source) (places : List (Place World Text))
    (failed : List (Except ReadFailure Text)) (done : Outcome World Source) : Prop where
  results : (reader.readMany (places.length + failed.length) source).1 =
    places.map (fun place => .ok place.item) ++ failed
  source : done.source = (reader.readMany (places.length + failed.length) source).2.2
  transcript : Trace.transcript done.trace =
    (places.flatMap fun place => reader.prompt.elim [] Utf8.encode ++ Trace.output (place.turn host).trace) ++
      failed.flatMap fun _ => reader.prompt.elim [] Utf8.encode

variable {host} {reader : LineReader Source}

theorem Reads.of_failure {source rest : Source} {failure : ReadFailure}
    (answer : reader.read source = (.error failure, rest)) (session : Session) (world : World) :
    Reads host reader source [] [.error failure] (run host reader session world source) := by
  obtain ⟨results, left⟩ := LineReader.readMany_succ answer 0
  rw [run_of_failure host answer]
  refine ⟨results, left.symm, ?_⟩
  simp only [Trace.transcript_prompting, List.flatMap_nil, List.flatMap_singleton, List.nil_append]

theorem Reads.nil (session : Session) (world : World) (source : Source) (ending : Ending) :
    Reads host reader source [] [] ⟨session, world, source, [], ending⟩ :=
  ⟨rfl, rfl, rfl⟩

theorem Reads.cons {source rest : Source} {place : Place World Text} {places : List (Place World Text)}
    {failed : List (Except ReadFailure Text)} {done : Outcome World Source}
    (answer : reader.read source = (.ok place.item, rest)) (later : Reads host reader rest places failed done) :
    Reads host reader source (place :: places) failed
      (done.after (reader.prompting ++ (place.turn host).trace)) := by
  obtain ⟨results, left⟩ := LineReader.readMany_succ answer (places.length + failed.length)
  have count : (place :: places).length + failed.length = places.length + failed.length + 1 :=
    Nat.add_right_comm _ _ _
  constructor
  · rw [count, results, later.results]
    rfl
  · rw [count, left, ← later.source]
    rfl
  · simp only [Outcome.after, Trace.transcript_append, Trace.transcript_prompting, Place.transcript_turn,
      later.transcript, List.flatMap_cons, List.append_assoc]

/-- A loop reads what it is cut to, and ends by what cut it or else by the read that fails. -/
theorem run_of_cut {source : Source} {session : Session} {world : World} {count : Nat} {stop : Option Ending}
    (cut : Cut (Place.Ends host) (places host session world (reader.script source).1) count stop) :
    (run host reader session world source).ending = stop.getD (.unread (reader.script source).2) ∧
      Reads host reader source ((places host session world (reader.script source).1).take count)
        (stop.elim [.error (reader.script source).2] fun _ => []) (run host reader session world source) := by
  -- by induction on what the source may still give; each read takes one place from the cut
  induction size : reader.remaining source using Nat.strongRecOn generalizing session world source count with
  | ind size ih =>
    rcases answered : reader.read source with ⟨failure | line, rest⟩
    · rw [LineReader.script_of_failure answered] at cut ⊢
      cases cut
      exact ⟨by rw [run_of_failure host answered]; rfl, .of_failure answered session world⟩
    · have shorter := reader.remaining_lt source line rest answered
      rw [LineReader.script_of_line answered, places_cons] at cut ⊢
      cases cut with
      | @here _ _ ending ends =>
        have stop : (turn host session world line).stop = some ending := Place.ends_mk_iff.1 ends
        have read : Reads host reader source [⟨session, world, line⟩] [] _ :=
          .cons answered (.nil (turn host session world line).session (turn host session world line).world rest
            ending)
        rw [run_of_line host answered]
        simp only [stop]
        rw [Outcome.after, List.append_nil] at read
        exact ⟨rfl, read⟩
      | @later _ _ count _ going later =>
        have stop : (turn host session world line).stop = none := by
          refine Option.eq_none_iff_forall_not_mem.2 fun ending ended => ?_
          exact going ending (Place.ends_mk_iff.2 ended)
        obtain ⟨ended, read⟩ := ih _ (size ▸ shorter) later rfl
        rw [run_of_line host answered]
        simp only [stop]
        exact ⟨ended, .cons answered read⟩

/-- No line comes to an element that faults, if the numerals of `exit` are short and the children can be
waited for. -/
theorem not_crashes {session : Session} {world : World} {lines : List Text}
    (short : ∀ line ∈ lines, ∀ chain, Chain.parse line = .ok chain → ∀ element ∈ chain, element.ShortExit)
    (waited : ∀ limit, session.limit = some limit → limit.exceedsWait = false) :
    ∀ place ∈ places host session world lines, ¬ ∃ ending, place.Crashes host ending := by
  rintro place inside ⟨ending, crashes⟩
  obtain ⟨listed, limited⟩ := mem_course Place.turn_limit inside
  cases crashes with
  | intro read reached faults =>
    obtain ⟨member, limited'⟩ := reached.mem_limit
    have shortHere := short _ listed _ read _ member
    rw [← limited, ← limited'] at waited
    exact Session.not_faults host shortHere waited _ faults

/-- With faults besides, a loop is cut where `exit` cuts it, if and only if no line up to there comes to an
element that faults. -/
theorem cut_ends_iff {course : List (Place World Text)} {count : Nat} {stop : Option Ending}
    (cut : Cut (Place.Exits host) course count stop) :
    Cut (Place.Ends host) course count stop ↔
      ∀ place ∈ course.take count, ¬ ∃ ending, place.Crashes host ending := by
  refine cut.widen_iff (fun _ _ => .inl) ?_ ?_ ?_
  · rintro place ending (exits | crashes)
    · exact .inl exits
    · exact .inr ⟨ending, crashes⟩
  · rintro place ⟨ending, crashes⟩
    exact ⟨ending, .inr crashes⟩
  · exact fun _ _ exits => Place.not_crashes_of_exits exits

/-- The loop gives a code exactly if the first line that comes to an `exit` gives it, and no line before
that faults. -/
theorem run_exited_iff {source : Source} {session : Session} {world : World} {code : Int} :
    (run host reader session world source).ending = .exited code ↔
      ∃ count, Cut (Place.Exits host) (places host session world (reader.script source).1) count
          (some (.exited code)) ∧
        ∀ place ∈ (places host session world (reader.script source).1).take count,
          ¬ ∃ ending, place.Crashes host ending := by
  constructor
  · intro exited
    obtain ⟨count, stop, cut⟩ := Cut.exists_cut (Place.Ends host)
      (places host session world (reader.script source).1)
    obtain rfl : stop = some (.exited code) := by
      have ended := (run_of_cut cut).1.symm.trans exited
      cases stop with
      | none => cases ended
      | some ending => exact congrArg some ended
    have designed : Cut (Place.Exits host) (places host session world (reader.script source).1) count
        (some (.exited code)) := by
      refine cut.narrow (fun _ _ => .inl) ?_
      rintro place other ⟨⟩ (exits | crashes)
      · exact exits
      · cases crashes
    exact ⟨count, designed, (cut_ends_iff designed).1 cut⟩
  · rintro ⟨count, cut, uncrashed⟩
    exact (run_of_cut ((cut_ends_iff cut).2 uncrashed)).1

/-- A loop goes through its lines up to the first that ends it: it reads these and nothing else, shows before
each of them a prompt and behind that what the line writes, and ends as the last of them says. If there is no
such line, it reads all of them, and after one more prompt ends by the failure of its reader. Its code is that
of the first line that comes to an `exit`, if and only if no line up to there faults; and none does if no
numeral of an `exit` is too long and the limit is one that can be waited for. -/
theorem run_reads_up_to_exit (reader : LineReader Source) (session : Session) (world : World)
    (source : Source) :
    let lines := (reader.script source).1
    let failure := (reader.script source).2
    let course := places host session world lines
    let done := run host reader session world source
    (∃ count stop, Cut (Place.Ends host) course count stop) ∧
      (∀ count ending, Cut (Place.Ends host) course count (some ending) →
        done.ending = ending ∧ Reads host reader source (course.take count) [] done ∧
          reader.script done.source = (lines.drop count, failure)) ∧
      (∀ count, Cut (Place.Ends host) course count none →
        done.ending = .unread failure ∧ Reads host reader source course [.error failure] done) ∧
      (∀ code, done.ending = .exited code → -0x80000000 ≤ code ∧ code ≤ 0x7FFFFFFF) ∧
      (∀ code, done.ending = .exited code ↔ ∃ count, Cut (Place.Exits host) course count (some (.exited code)) ∧
        ∀ place ∈ course.take count, ¬ ∃ ending, place.Crashes host ending) ∧
      (∀ count stop, Cut (Place.Exits host) course count stop → (Cut (Place.Ends host) course count stop ↔
        ∀ place ∈ course.take count, ¬ ∃ ending, place.Crashes host ending)) ∧
      ((∀ line ∈ lines, ∀ chain, Chain.parse line = .ok chain → ∀ element ∈ chain, element.ShortExit) →
        (∀ limit, session.limit = some limit → limit.exceedsWait = false) →
          ∀ place ∈ course, ¬ ∃ ending, place.Crashes host ending) := by
  intro lines failure course done
  refine ⟨Cut.exists_cut _ _, ?_, ?_, ?_, fun _ => run_exited_iff, fun _ _ => cut_ends_iff, not_crashes⟩
  · intro count ending cut
    obtain ⟨ended, read⟩ := run_of_cut cut
    have length : (course.take count).length = count := by
      rw [List.length_take]
      exact Nat.min_eq_left cut.count_le
    have within : count ≤ lines.length := by
      rw [← course_length _ session world lines]
      exact cut.count_le
    have left := read.source
    rw [length] at left
    exact ⟨ended, read, left ▸ LineReader.script_readMany within⟩
  · intro count cut
    obtain ⟨ended, read⟩ := run_of_cut cut
    rw [cut.count_of_none, List.take_length] at read
    exact ⟨ended, read⟩
  · intro code exited
    obtain ⟨count, cut, -⟩ := run_exited_iff.1 exited
    obtain ⟨place, exits⟩ := cut.exists_stops
    cases exits with
    | intro _ _ _ granted => exact ExitRequest.range_of_code granted

/-- A line that asks for no end of the loop; under a limit that may be chosen it is the end of it. -/
theorem run_ended_by_limit :
    let fresh : Session := ⟨[], [], some Session.longLimit⟩
    let done := run (.still ⟨[]⟩) .editor fresh () [.line "echo a".toList]
    Settings.readTimeout "3000000".toList = .ok Session.longLimit ∧
      Cut (Place.Exits (.still ⟨[]⟩)) (places (.still ⟨[]⟩) fresh () ["echo a".toList]) 1 none ∧
      done.ending = .crashed (.limitTooLong Session.longLimit) := by
  refine ⟨by decide +kernel, ?_, ?_⟩
  · have parsed : Chain.parse "echo a".toList = .ok [Session.echo ['a']] := by decide
    refine .later (fun ending exits => ?_) .nil
    cases exits with
    | intro read reached named _ =>
      obtain rfl := Except.ok.inj (parsed.symm.trans read)
      cases reached with
      | here => exact absurd named (by decide)
      | later _ further => cases further
  · have ended := (run_eq_overLines (.still ⟨[]⟩) .editor ⟨[], [], some Session.longLimit⟩ ()
      (["echo a".toList].map .line)).2.2.2
    rw [LineReader.script_editor] at ended
    exact ended.trans (by decide +kernel)

end Loop

end ChainShell
