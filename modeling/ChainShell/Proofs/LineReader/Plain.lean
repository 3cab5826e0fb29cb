import ChainShell.LineReader.Plain
import ChainShell.Proofs.Chain.Segments
import ChainShell.Proofs.LineReader.Script
import ChainShell.Proofs.Text.Lines
import Mathlib.Data.List.Forall2

namespace ChainShell

namespace LineReader

open Text

variable {prompt text : Text} {pieces : List Text}

theorem read_plain_of_ne_nil (nonempty : text ≠ []) :
    (plain prompt).read text = (.ok (dropLineBreaks (splitLine text).1), (splitLine text).2) :=
  if_neg nonempty

theorem read_plain_nil : (plain prompt).read [] = (.error endOfText, []) := rfl

/-- What reads give, one after the other: the lines, and then the end again and again. -/
def results (lines : List Text) (count : Nat) : List (Except ReadFailure Text) :=
  (lines.take count).map .ok ++ List.replicate (count - lines.length) (.error endOfText)

theorem results_cons (line : Text) (lines : List Text) (count : Nat) :
    results (line :: lines) (count + 1) = .ok line :: results lines count := by
  rw [results, List.take_succ_cons, List.map_cons, List.length_cons, Nat.add_sub_add_right]
  rfl

theorem results_nil_succ (count : Nat) : results [] (count + 1) = .error endOfText :: results [] count := by
  simp only [results, List.take_nil, List.map_nil, List.nil_append, List.length_nil, Nat.sub_zero,
    List.replicate_succ]

theorem readMany_plain (cut : Pieces text pieces) (count : Nat) :
    ((plain prompt).readMany count text).1 = results (pieces.map dropLineBreaks) count := by
  induction count generalizing text pieces with
  | zero => simp [readMany, results]
  | succ count ih =>
    by_cases empty : text = []
    · subst empty
      obtain rfl := cut.of_nil
      rw [readMany, read_plain_nil, List.map_nil, results_nil_succ]
      exact congrArg _ (ih .nil)
    · obtain ⟨later, rfl, further⟩ := cut.of_ne_nil empty
      rw [readMany, read_plain_of_ne_nil empty, List.map_cons, results_cons]
      exact congrArg _ (ih further)

/-- A text has one cutting into pieces, and reads give these in order, each without the carriage returns and
line feeds at its end. A piece of nothing else gives an empty line, and a line means what its piece means,
down to the wording of an error. Behind the last piece each read finds the end, however many there are; and
there is one prompt before each read. -/
theorem plain_reads_pieces (prompt text : Text) :
    ∃ pieces lines, Pieces text pieces ∧ (∀ other, Pieces text other → other = pieces) ∧
      List.Forall₂ Strips pieces lines ∧
      (∀ count, ((plain prompt).readMany count text).1 =
        (lines.take count).map .ok ++ List.replicate (count - lines.length) (.error endOfText)) ∧
      (∀ count, ((plain prompt).readMany count text).2.1 = List.replicate count (.prompted prompt)) ∧
      List.Forall₂ (fun piece line => (∀ c ∈ piece, c = '\r' ∨ c = '\n') → line = []) pieces lines ∧
      List.Forall₂ (fun piece line => Chain.parse line = Chain.parse piece) pieces lines := by
  obtain ⟨pieces, cut⟩ := Pieces.exists_of_text text
  have strips : List.Forall₂ Strips pieces (pieces.map dropLineBreaks) :=
    List.forall₂_map_right_iff.2 (List.forall₂_same.2 fun piece _ => strips_dropLineBreaks piece)
  refine ⟨pieces, pieces.map dropLineBreaks, cut, fun other => cut.unique, strips, readMany_plain cut, ?_,
    strips.imp fun _ _ => Strips.eq_nil, strips.imp fun _ _ => Chain.parse_of_strips⟩
  intro count
  have single : (plain prompt).prompting = [.prompted prompt] := rfl
  rw [events_readMany, single, List.flatten_replicate_singleton]

end LineReader

end ChainShell
