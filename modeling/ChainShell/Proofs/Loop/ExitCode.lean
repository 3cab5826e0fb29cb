import ChainShell.Proofs.Loop.Faults
import ChainShell.Proofs.Number.Numeral
import ChainShell.Proofs.Session.Stop

namespace ChainShell

namespace Loop

variable {World : Type} (host : Host World)

/-- What `exit` makes of an argument with at most 4300 digits, whatever stands behind it: the code that the
argument spells, if it spells one of 32 bits, and then nothing more is run; else an error that tells a number
out of range from what is no number, and the run goes on behind it. A number has a spelling with each sign
and with any zeros in front, and a line that asks for a code in its usual form makes the loop return it. -/
theorem exit_takes_numerals (session : Session) (world : World) :
    (∀ argument, argument.countP Numeral.isDigit ≤ 4300 →
      (∀ code rest, (session.step host world (.single ⟨"exit".toList, argument :: rest⟩)).ending =
          .terminated code ↔ Numeral.Spells argument code ∧ ExitRequest.InRange code) ∧
      (∀ code, Numeral.Spells argument code → ExitRequest.InRange code → ∀ rest more,
        session.run host world (.single ⟨"exit".toList, argument :: rest⟩ :: more) =
          ⟨session.record (.single ⟨"exit".toList, argument :: rest⟩), world, [], .terminated code⟩) ∧
      ((∀ code, Numeral.Spells argument code → ¬ ExitRequest.InRange code) → ∃ error,
        (error = .notNumeral argument ↔ ∀ code, ¬ Numeral.Spells argument code) ∧
        (error = .outOfRange argument ↔ ∃ code, Numeral.Spells argument code) ∧ ∀ rest more,
        session.run host world (.single ⟨"exit".toList, argument :: rest⟩ :: more) =
          ((session.record (.single ⟨"exit".toList, argument :: rest⟩)).run host world more).after
            [.failed (.single ⟨"exit".toList, argument :: rest⟩) (.arguments error)])) ∧
      (∀ sign ∈ Numeral.signs, ∀ zeros n,
        Numeral.Spells (sign ++ (List.replicate zeros '0' ++ Nat.toDigits 10 n))
          (if sign = ['-'] then -(n : Int) else n)) ∧
      ∀ code, ExitRequest.InRange code → ∀ {Source : Type} (reader : LineReader Source) source here there,
        Reaches host session world (reader.script source).1 here there
          ("exit ".toList ++ (toString code).toList) →
        (run host reader session world source).ending = .exited code := by
  refine ⟨fun argument short => ⟨fun code rest => ?_, fun code spells range rest more => ?_, fun out => ?_⟩,
    fun sign signed => Numeral.spells_padded signed, fun code range Source reader source here there reached => ?_⟩
  · rw [Session.step_terminated_iff, ← ExitRequest.ofArgs_eq_code_iff short rest]
    constructor
    · rintro ⟨command, ⟨⟩, -, granted⟩
      exact granted
    · exact fun granted => ⟨_, rfl, rfl, granted⟩
  · exact Session.run_exit_of_code ((ExitRequest.ofArgs_eq_code_iff short rest).2 ⟨spells, range⟩) more
  · obtain ⟨error, noNumber, tooLarge, refused⟩ := ExitRequest.exists_error short out
    exact ⟨error, noNumber, tooLarge, fun rest more => Session.run_exit_of_error (refused rest) more⟩
  · have spells := Numeral.spells_toString code
    have short : (toString code).toList.countP Numeral.isDigit ≤ numeralLimit :=
      (List.countP_le_length.trans (Numeral.length_toString_le range)).trans (by decide)
    have granted := (ExitRequest.ofArgs_eq_code_iff short []).2 ⟨spells, range⟩
    have ended : (here.step host there (.single ⟨"exit".toList, [(toString code).toList]⟩)).ending =
        .terminated code := (Session.step_terminated_iff host).2 ⟨_, rfl, rfl, granted⟩
    have stopped : (overLines host session world (reader.script source).1).stop = some (.exited code) := by
      refine (overLines_stop_iff host).2 ⟨here, there, _, reached, ?_⟩
      rw [turn_exit host (Grammar.Word.of_spells spells), Turn.ofRun_exited_iff, ended]
    rw [(run_eq_overLines host reader session world source).2.2.2, stopped]
    rfl

end Loop

end ChainShell
