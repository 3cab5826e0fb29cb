import ChainShell.Proofs.LineReader.Chunked
import ChainShell.Proofs.Loop.Lines
import ChainShell.Shell

namespace ChainShell.Shell

variable {World : Type} (host : Host World)

/-- Over plain input a shell does what the lines do that it is given, and fails if they do not stop it. -/
theorem runSession_of_input (world : World) (start : Start) {settings : Settings} (console : Console)
    (session : Session) (plain : settings.lineEditor = false) :
    let outcome := runSession host world start settings console session
    let done := Loop.overLines host session world
      ((LineReader.chunked settings.prompt).script (.ofBytes start.input)).1
    outcome.session = some done.session ∧ outcome.world = done.world ∧
      Trace.unprompted outcome.trace = done.trace ∧
      (done.stop = none → outcome.exitCode = failureCode ∧ outcome.crash = none) := by
  obtain ⟨sameSession, sameWorld, sameTrace, ending⟩ :=
    Loop.run_eq_overLines host (LineReader.chunked settings.prompt) session world (.ofBytes start.input)
  simp only [runSession, plain, Bool.false_eq_true, if_false, ofLoop]
  refine ⟨congrArg some sameSession, sameWorld, sameTrace, fun going => ?_⟩
  rw [ending, going]
  exact ⟨rfl, rfl⟩

/-- The input begins with a longest text, which is cut in one way into lines and what is left behind the last
line break. If the input is all of that text, reads give each line, then what is left if anything is, and then
the end. If it is not, they give some of the lines, none of them cut short, and then fail to decode. A shell
does what the lines do that are given, no more, and its exit code is 1 if none of them stops it. -/
theorem reads_lines_of_input (prompt : Text) (bytes : Bytes) :
    ∃ text lines rest given failure,
      (Utf8.encode text <+: bytes ∧
        ∀ other, Utf8.encode other <+: bytes → Utf8.encode other <+: Utf8.encode text) ∧
      (Text.Lines text lines rest ∧
        ∀ lines' rest', Text.Lines text lines' rest' → lines' = lines ∧ rest' = rest) ∧
      (∀ count, count ≤ given.length + 1 →
        ((LineReader.chunked prompt).readMany count (.ofBytes bytes)).1 =
          List.take count (given.map .ok ++ [.error failure])) ∧
      (bytes = Utf8.encode text →
        given = lines ++ (if rest = [] then [] else [rest]) ∧ failure = LineReader.endOfText) ∧
      (bytes ≠ Utf8.encode text → given <+: lines ∧ ∃ e, failure = .undecodable e) ∧
      ∀ {World : Type} (host : Host World) (world : World) (start : Start) (settings : Settings)
        (console : Console) (session : Session),
        start.input = bytes → settings.lineEditor = false → settings.prompt = prompt →
        let outcome := runSession host world start settings console session
        let done := Loop.overLines host session world given
        outcome.session = some done.session ∧ outcome.world = done.world ∧
          Trace.unprompted outcome.trace = done.trace ∧
          (done.stop = none → outcome.exitCode = 1 ∧ outcome.crash = none) := by
  obtain ⟨text, tail, decodes⟩ := Utf8.Decodes.exists_of_bytes bytes
  obtain ⟨lines, rest, cut⟩ := Text.Lines.exists_of_text text
  have brings := LineReader.Chunked.Brings.ofBytes decodes
  obtain ⟨unbroken, last⟩ := cut.unbroken
  have all : bytes = Utf8.encode text ↔ tail = [] := by
    rw [decodes.whole, List.append_right_eq_self]
  refine ⟨text, lines, rest, ((LineReader.chunked prompt).script (.ofBytes bytes)).1,
    ((LineReader.chunked prompt).script (.ofBytes bytes)).2,
    ⟨⟨tail, decodes.whole.symm⟩, fun other begins => ?_⟩, ⟨cut, fun _ _ => cut.unique⟩,
    fun count => LineReader.readMany_eq_take, fun whole => ?_, fun broken => ?_, ?_⟩
  · obtain ⟨more, rfl⟩ := decodes.longest begins
    exact ⟨Utf8.encode more, (Utf8.encode_append other more).symm⟩
  · obtain rfl := all.1 whole
    rw [brings.script_of_text unbroken last cut.unifyBreaks_eq]
    exact ⟨rfl, rfl⟩
  · exact brings.script_of_broken (mt all.2 broken) unbroken last cut.unifyBreaks_eq
  · rintro World host world start settings console session rfl plain rfl
    exact runSession_of_input host world start console session plain

end ChainShell.Shell
