import ChainShell.Proofs.Loop.Lines
import ChainShell.Proofs.Session.Faults
import ChainShell.Settings

namespace ChainShell.Loop

variable {World Source : Type} (host : Host World)

theorem turn_crashed_iff {session : Session} {world : World} {line : Text} {fault : Fault} :
    (turn host session world line).stop = some (.crashed fault) ↔
      ∃ chain, Chain.parse line = .ok chain ∧ (session.run host world chain).ending = .crashed fault := by
  rw [turn_stop_iff]
  simp only [Turn.ofRun_crashed_iff]

/-- A loop crashes by an element that faults where a chain comes to it, on a line that the loop comes
to. -/
theorem run_crashed_iff {reader : LineReader Source} {session : Session} {world : World} {source : Source}
    {fault : Fault} : (run host reader session world source).ending = .crashed fault ↔
      ∃ here there line chain, Reaches host session world (reader.script source).1 here there line ∧
        Chain.parse line = .ok chain ∧ ∃ here' there' element,
          Session.Reaches host here there chain here' there' element ∧
            here'.Faults host there' element fault := by
  have ended := (run_eq_overLines host reader session world source).2.2.2
  have crashed : (run host reader session world source).ending = .crashed fault ↔
      (overLines host session world (reader.script source).1).stop = some (.crashed fault) := by
    rw [ended]
    cases (overLines host session world (reader.script source).1).stop with
    | none => constructor <;> intro same <;> cases same
    | some ending => exact ⟨congrArg some, Option.some.inj⟩
  rw [crashed, overLines_stop_iff]
  simp only [turn_crashed_iff, Session.run_crashed_iff]
  constructor
  · rintro ⟨here, there, line, reached, chain, read, faulty⟩
    exact ⟨here, there, line, chain, reached, read, faulty⟩
  · rintro ⟨here, there, line, chain, reached, read, faulty⟩
    exact ⟨here, there, line, reached, chain, read, faulty⟩

theorem run_unread_iff {reader : LineReader Source} {session : Session} {world : World} {source : Source}
    {failure : ReadFailure} : (run host reader session world source).ending = .unread failure ↔
      (overLines host session world (reader.script source).1).stop = none ∧
        (reader.script source).2 = failure := by
  rw [(run_eq_overLines host reader session world source).2.2.2]
  cases stop : (overLines host session world (reader.script source).1).stop with
  | none => simp
  | some ending =>
    constructor
    · intro unread
      exact absurd (stop.trans (congrArg some unread)) (overLines_stop_ne_unread host _ _ _ failure)
    · rintro ⟨ended, _⟩
      cases ended

/-- A word reaches `exit` as it was typed. -/
theorem turn_exit {argument : Text} (word : Grammar.Word argument) (session : Session) (world : World) :
    turn host session world ("exit ".toList ++ argument) = .ofRun ("exit ".toList ++ argument)
      (session.step host world (.single ⟨"exit".toList, [argument]⟩)) := by
  have typed : "exit ".toList ++ argument = Element.text (.single ⟨"exit".toList, [argument]⟩) := by
    rw [Element.text, Command.text_eq, List.flatMap_singleton]
    rfl
  have exit : Grammar.Word ['e', 'x', 'i', 't'] := by
    refine .cons ?_ (.cons ?_ (.cons ?_ (.one ?_))) <;> exact ⟨by decide, by decide, by decide⟩
  have plain : Element.Plain (.single ⟨"exit".toList, [argument]⟩) :=
    List.forall_mem_cons.2 ⟨exit, List.forall_mem_singleton.2 word⟩
  rw [typed, turn_text host plain]

theorem turn_long_numeral {digits : Text} (decimal : digits.all Numeral.isDigit = true)
    (long : numeralLimit < digits.length) (session : Session) (world : World) :
    (turn host session world ("exit ".toList ++ digits)).stop =
      some (.crashed (.numeralTooLong digits.length)) := by
  have nonempty : digits ≠ [] := by
    rintro rfl
    exact absurd long (by decide)
  have faulty : session.Faults host world (.single ⟨"exit".toList, [digits]⟩)
      (.numeralTooLong digits.length) := .numeral List.mem_cons_self decimal long
  rw [turn_exit host (.of_digits nonempty decimal), Turn.ofRun, (Session.step_crashed_iff host).2 faulty]

/-- All that escapes. From a chain: the error of a pipe's first command, or a fault. From a loop: the
failure of its reader, once all lines are done, or a fault. And `exit` settles unless its numeral is
too long. -/
theorem run_escapes_iff (reader : LineReader Source) (session : Session) (world : World) (source : Source) :
    (∀ chain error, (session.run host world chain).ending = .aborted error ↔
        ∃ here there first second,
          Session.Reaches host session world chain here there (.piped first second) ∧
            (here.execute host there first none).2.2 = .error (.error error)) ∧
      (∀ chain fault, (session.run host world chain).ending = .crashed fault ↔
        ∃ here there element, Session.Reaches host session world chain here there element ∧
          here.Faults host there element fault) ∧
      (∀ failure, (run host reader session world source).ending = .unread failure ↔
        (overLines host session world (reader.script source).1).stop = none ∧
          (reader.script source).2 = failure) ∧
      (∀ fault, (run host reader session world source).ending = .crashed fault ↔
        ∃ here there line chain, Reaches host session world (reader.script source).1 here there line ∧
          Chain.parse line = .ok chain ∧ ∃ here' there' element,
            Session.Reaches host here there chain here' there' element ∧
              here'.Faults host there' element fault) ∧
      ∀ args, ((∃ code, (session.step host world (.single ⟨"exit".toList, args⟩)).ending =
            .terminated code) ∨
          ∃ error, (session.step host world (.single ⟨"exit".toList, args⟩)).ending = .completed ∧
            (session.step host world (.single ⟨"exit".toList, args⟩)).trace =
              [.failed (.single ⟨"exit".toList, args⟩) (.arguments error)]) ↔
        ∀ sign ∈ Numeral.signs, ∀ digits rest, args = (sign ++ digits) :: rest →
          digits.all Numeral.isDigit = true → digits.length ≤ numeralLimit :=
  ⟨fun _ _ => Session.run_aborted_iff host, fun _ _ => Session.run_crashed_iff host,
    fun _ => run_unread_iff host, fun _ => run_crashed_iff host,
    fun _ => Session.step_exit_settles_iff host⟩

/-- Neither a line that asks for code zero with 4301 digits nor a child under a limit without end, which
is one that may be chosen, is recovered from. -/
theorem run_crashes :
    (run (.still ⟨[]⟩) .editor ⟨[], [], none⟩ () [.line ("exit ".toList ++ List.replicate 4301 '0')]).ending =
        .crashed (.numeralTooLong 4301) ∧
      Settings.readTimeout "inf".toList = .ok (.infinite false) ∧
      (run (.still ⟨[]⟩) .editor ⟨[], [], some (.infinite false)⟩ () [.line ['a']]).ending =
        .crashed (.limitTooLong (.infinite false)) := by
  refine ⟨?_, rfl, ?_⟩
  · have zeros : (List.replicate 4301 '0').all Numeral.isDigit = true := by
      rw [List.all_eq_true]
      intro c member
      rw [List.eq_of_mem_replicate member]
      decide
    have long : numeralLimit < (List.replicate 4301 '0').length := by
      rw [List.length_replicate]
      decide
    have stopped := turn_long_numeral (.still ⟨[]⟩) zeros long ⟨[], [], none⟩ ()
    have ended := (run_eq_overLines (.still ⟨[]⟩) .editor ⟨[], [], none⟩ ()
      (["exit ".toList ++ List.replicate 4301 '0'].map .line)).2.2.2
    rw [LineReader.script_editor, overLines_singleton, stopped, List.length_replicate] at ended
    exact ended
  · have ended := (run_eq_overLines (.still ⟨[]⟩) .editor ⟨[], [], some (.infinite false)⟩ ()
      ([['a']].map .line)).2.2.2
    rw [LineReader.script_editor] at ended
    exact ended.trans (by decide +kernel)

end ChainShell.Loop
