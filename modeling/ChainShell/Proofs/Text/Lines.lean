import ChainShell.Proofs.Text.Blanks
import ChainShell.Text.Lines

namespace ChainShell.Text

/-- A text cut behind each of its line feeds: pieces that end with the only line feed in them, and what is
left without one, if anything is. -/
inductive Pieces : Text → List Text → Prop
  | nil : Pieces [] []
  | unended {rest : Text} : rest ≠ [] → '\n' ∉ rest → Pieces rest [rest]
  | cons {line more : Text} {pieces : List Text} : '\n' ∉ line → Pieces more pieces →
      Pieces (line ++ '\n' :: more) ((line ++ ['\n']) :: pieces)

/-- A line is a piece without the run of carriage returns and line feeds at its end. -/
def Strips (piece line : Text) : Prop :=
  ∃ breaks, piece = line ++ breaks ∧ (∀ c ∈ breaks, c = '\r' ∨ c = '\n') ∧
    ∀ c, line.getLast? = some c → c ≠ '\r' ∧ c ≠ '\n'

theorem isWithinLine_eq_true_iff {c : Char} : isWithinLine c = true ↔ c ≠ '\n' :=
  bne_iff_ne

theorem isLineBreak_eq_true_iff {c : Char} : isLineBreak c = true ↔ c = '\r' ∨ c = '\n' := by
  rw [isLineBreak, Bool.or_eq_true, beq_iff_eq, beq_iff_eq]

theorem forall_isWithinLine {text : Text} (free : '\n' ∉ text) : ∀ c ∈ text, isWithinLine c = true := by
  intro c inside
  rw [isWithinLine_eq_true_iff]
  rintro rfl
  exact free inside

theorem splitLine_of_not_mem {text : Text} (free : '\n' ∉ text) : splitLine text = (text, []) := by
  rw [splitLine, List.dropWhile_eq_nil_iff.2 (forall_isWithinLine free)]

/-- What stands behind a first part without a line feed decides where the first line ends. -/
theorem splitLine_append_of_not_mem {text : Text} (free : '\n' ∉ text) (more : Text) :
    splitLine (text ++ more) = (text ++ (splitLine more).1, (splitLine more).2) := by
  have within := forall_isWithinLine free
  simp only [splitLine, List.dropWhile_append_of_pos within, List.takeWhile_append_of_pos within]
  split
  · rfl
  · rw [List.append_assoc]

theorem splitLine_feed (more : Text) : splitLine ('\n' :: more) = (['\n'], more) := by
  rw [splitLine, List.dropWhile_cons_of_neg (by decide), List.takeWhile_cons_of_neg (by decide)]
  rfl

theorem splitLine_append_feed {line : Text} (free : '\n' ∉ line) (more : Text) :
    splitLine (line ++ '\n' :: more) = (line ++ ['\n'], more) := by
  rw [splitLine_append_of_not_mem free, splitLine_feed]

namespace Pieces

variable {text : Text} {pieces : List Text}

/-- Every text is cut; one more character in front belongs to the first piece, unless it is a line feed. -/
theorem exists_of_text (text : Text) : ∃ pieces, Pieces text pieces := by
  induction text with
  | nil => exact ⟨[], .nil⟩
  | cons c rest ih =>
    obtain ⟨pieces, cut⟩ := ih
    by_cases feed : c = '\n'
    · subst feed
      exact ⟨_, .cons List.not_mem_nil cut⟩
    · have other (line : Text) (free : '\n' ∉ line) : '\n' ∉ c :: line := by
        rw [List.mem_cons, not_or]
        exact ⟨Ne.symm feed, free⟩
      cases cut with
      | nil => exact ⟨[[c]], .unended (List.cons_ne_nil _ _) (other [] List.not_mem_nil)⟩
      | unended _ free => exact ⟨_, .unended (List.cons_ne_nil _ _) (other _ free)⟩
      | cons free further => exact ⟨_, .cons (other _ free) further⟩

theorem of_nil (cut : Pieces [] pieces) : pieces = [] := by
  generalize whole : ([] : Text) = text at cut
  cases cut with
  | nil => rfl
  | unended nonempty => exact absurd whole.symm nonempty
  | cons => simp at whole

/-- The first piece is the first line, and the others are those of what follows it. -/
theorem of_ne_nil (cut : Pieces text pieces) (nonempty : text ≠ []) :
    ∃ later, pieces = (splitLine text).1 :: later ∧ Pieces (splitLine text).2 later := by
  cases cut with
  | nil => exact absurd rfl nonempty
  | unended _ free =>
    rw [splitLine_of_not_mem free]
    exact ⟨[], rfl, .nil⟩
  | @cons line more later free further =>
    rw [splitLine_append_feed free]
    exact ⟨later, rfl, further⟩

theorem unique {other : List Text} (cut : Pieces text pieces) (cut' : Pieces text other) : other = pieces := by
  induction cut generalizing other with
  | nil => exact cut'.of_nil
  | @unended rest nonempty free =>
    obtain ⟨later, rfl, further⟩ := cut'.of_ne_nil nonempty
    rw [splitLine_of_not_mem free] at further ⊢
    rw [further.of_nil]
  | cons free _ ih =>
    obtain ⟨later, rfl, further⟩ := cut'.of_ne_nil (by simp)
    rw [splitLine_append_feed free] at further ⊢
    rw [ih further]

end Pieces

theorem strips_dropLineBreaks (piece : Text) : Strips piece (dropLineBreaks piece) := by
  refine ⟨piece.rtakeWhile isLineBreak, ?_, fun c inside => ?_, fun c last => ?_⟩
  · exact List.rdropWhile_append_rtakeWhile.symm
  · exact isLineBreak_eq_true_iff.1 (List.mem_rtakeWhile_imp inside)
  · have nonempty : dropLineBreaks piece ≠ [] := fun empty => by simp [empty] at last
    rw [List.getLast?_eq_some_getLast nonempty, Option.some.injEq] at last
    have kept := List.rdropWhile_last_not isLineBreak piece nonempty
    rw [← not_or, ← isLineBreak_eq_true_iff, ← last]
    exact kept

theorem isBlank_of_isLineBreak {c : Char} (isBreak : c = '\r' ∨ c = '\n') : isBlank c = true := by
  rcases isBreak with rfl | rfl <;> rfl

namespace Strips

variable {piece line : Text}

/-- A piece that is nothing but line breaks is an empty line. -/
theorem eq_nil (strips : Strips piece line) (breaks : ∀ c ∈ piece, c = '\r' ∨ c = '\n') : line = [] := by
  obtain ⟨_, rfl, -, solid⟩ := strips
  by_contra nonempty
  have last := List.getLast?_eq_some_getLast nonempty
  obtain ⟨noReturn, noFeed⟩ := solid _ last
  rcases breaks _ (List.mem_append_left _ (List.getLast_mem nonempty)) with isReturn | isFeed
  · exact noReturn isReturn
  · exact noFeed isFeed

theorem trim_eq (strips : Strips piece line) : trim piece = trim line := by
  obtain ⟨breaks, rfl, breaking, -⟩ := strips
  exact trim_append_right (fun c inside => isBlank_of_isLineBreak (breaking c inside)) line

end Strips

end ChainShell.Text
