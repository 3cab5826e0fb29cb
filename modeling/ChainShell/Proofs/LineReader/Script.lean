import ChainShell.LineReader.Editor
import ChainShell.Proofs.Event

namespace ChainShell

namespace LineReader

variable {Source : Type}

/-- The lines that a source gives, and why it gives no more after them. -/
def script (reader : LineReader Source) (source : Source) : List Text × ReadFailure :=
  match _answer : reader.read source with
  | (.error failure, _) => ([], failure)
  | (.ok line, rest) => (line :: (reader.script rest).1, (reader.script rest).2)
termination_by reader.remaining source
decreasing_by all_goals exact reader.remaining_lt source _ _ _answer

theorem script_of_failure {reader : LineReader Source} {source rest : Source} {failure : ReadFailure}
    (answer : reader.read source = (.error failure, rest)) : reader.script source = ([], failure) := by
  rw [script]
  split <;> rename_i answer' <;> rw [answer] at answer' <;> cases answer'
  rfl

theorem script_of_line {reader : LineReader Source} {source rest : Source} {line : Text}
    (answer : reader.read source = (.ok line, rest)) :
    reader.script source = (line :: (reader.script rest).1, (reader.script rest).2) := by
  rw [script]
  split <;> rename_i answer' <;> rw [answer] at answer' <;> cases answer'
  rfl

theorem readMany_succ {reader : LineReader Source} {source rest : Source} {result : Except ReadFailure Text}
    (answer : reader.read source = (result, rest)) (count : Nat) :
    (reader.readMany (count + 1) source).1 = result :: (reader.readMany count rest).1 ∧
      (reader.readMany (count + 1) source).2.2 = (reader.readMany count rest).2.2 := by
  rw [readMany, answer]
  exact ⟨rfl, rfl⟩

/-- What is left of a source behind lines that have been read gives the other lines. -/
theorem script_readMany {reader : LineReader Source} {source : Source} {count : Nat}
    (within : count ≤ (reader.script source).1.length) :
    reader.script (reader.readMany count source).2.2 =
      ((reader.script source).1.drop count, (reader.script source).2) := by
  induction count generalizing source with
  | zero => rfl
  | succ count ih =>
    rcases answered : reader.read source with ⟨failure | line, rest⟩
    · rw [script_of_failure answered] at within
      cases within
    · rw [script_of_line answered] at within ⊢
      rw [(readMany_succ answered count).2, ih (Nat.le_of_succ_le_succ within)]
      rfl

/-- Reads give the lines one by one, and then say why there are no more. -/
theorem readMany_eq_take {reader : LineReader Source} {source : Source} {count : Nat}
    (within : count ≤ (reader.script source).1.length + 1) :
    (reader.readMany count source).1 =
      List.take count ((reader.script source).1.map .ok ++ [.error (reader.script source).2]) := by
  induction count generalizing source with
  | zero => simp only [readMany, List.take_zero]
  | succ count ih =>
    rcases answered : reader.read source with ⟨failure | line, rest⟩
    · rw [script_of_failure answered] at within ⊢
      obtain rfl : count = 0 := Nat.le_zero.1 (Nat.le_of_succ_le_succ within)
      rw [(readMany_succ answered 0).1]
      rfl
    · rw [script_of_line answered] at within ⊢
      rw [(readMany_succ answered count).1, ih (Nat.le_of_succ_le_succ within)]
      rfl

/-- There is a prompt before each read, whatever the read gives. -/
theorem events_readMany (reader : LineReader Source) (count : Nat) (source : Source) :
    (reader.readMany count source).2.1 = (List.replicate count reader.prompting).flatten := by
  induction count generalizing source with
  | zero => rfl
  | succ count ih =>
    rw [readMany, List.replicate_succ, List.flatten_cons, ← ih]

theorem script_editor (lines : List Text) : editor.script (lines.map .line) = (lines, .endOfInput []) := by
  induction lines with
  | nil => exact script_of_failure rfl
  | cons line rest ih =>
    have answer : editor.read (.line line :: rest.map .line) = (.ok line, rest.map .line) := rfl
    rw [List.map_cons, script_of_line answer, ih]

end LineReader

namespace Trace

variable {Source : Type}

theorem unprompted_prompting (reader : LineReader Source) :
    unprompted reader.prompting = [] := by
  rw [LineReader.prompting]
  split <;> rfl

theorem transcript_prompting (reader : LineReader Source) :
    transcript reader.prompting = reader.prompt.elim [] Utf8.encode := by
  rw [LineReader.prompting]
  cases reader.prompt with
  | none => rfl
  | some prompt => exact List.append_nil _

end Trace

end ChainShell
