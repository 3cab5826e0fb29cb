import ChainShell.Diagnostics
import ChainShell.Proofs.Text.Markup
import ChainShell.Proofs.Text.Wrap

namespace ChainShell.Diagnostics

open Text

/-- What is seen of a message apart from blanks: all but the controls U+0007 and U+0008. -/
def shown (message : Text) : Text :=
  (solid message).filter fun c => c != '\x07' && c != '\x08'

/-- Characters that take one column, and those that are not placed on a line: tabs, line breaks and
the controls that are never shown. -/
def OneColumn (c : Char) : Prop :=
  charColumns c = 1 ∨ c = '\t' ∨ c = '\n' ∨ isRemoved c = true

instance (c : Char) : Decidable (OneColumn c) :=
  inferInstanceAs (Decidable (_ ∨ _ ∨ _ ∨ _))

/-- An output that loses nothing of a message and fits: lines of at most `width` characters, and the
label and the message on them but for blanks. -/
structure Shows (width : Nat) (message output : Text) : Prop where
  fits : ∃ lines, output = endLines lines ∧ ∀ line ∈ lines, '\n' ∉ line ∧ line.length ≤ width
  keeps : solid output = "pipesh:".toList ++ shown message

/-- The controls that are never shown are those two, and blanks. -/
theorem solid_filter_isRemoved (message : Text) :
    solid (message.filter (!isRemoved ·)) = shown message := by
  rw [shown, solid, solid, List.filter_filter, List.filter_filter]
  refine List.filter_congr fun c _ => ?_
  cases removed : isRemoved c with
  | true => rcases isRemoved_iff.1 removed with rfl | rfl | rfl | rfl | rfl <;> rfl
  | false =>
    have others := mt (isRemoved_iff (c := c)).2 (by simp [removed])
    rw [not_or, not_or] at others
    simp [others.1, others.2.1]

@[simp] theorem shown_append (left right : Text) : shown (left ++ right) = shown left ++ shown right := by
  rw [shown, solid_append, List.filter_append]
  rfl

theorem shown_label : shown label = "pipesh:".toList := by
  decide

theorem solid_endLines (lines : List Text) : solid (endLines lines) = solid lines.flatten := by
  induction lines with
  | nil => rfl
  | cons line rest ih =>
    have broken : solid ['\n'] = [] := rfl
    rw [endLines, List.flatMap_cons, ← endLines, solid_append, solid_append, ih, broken, List.append_nil,
      List.flatten_cons, solid_append]

theorem OneColumn.charColumns_le {c : Char} (narrow : OneColumn c) : charColumns c ≤ 1 := by
  rcases narrow with one | rfl | rfl | removed
  · exact one.le
  · decide
  · decide
  · rcases isRemoved_iff.1 removed with rfl | rfl | rfl | rfl | rfl <;> decide

theorem forall_oneColumn {text : Text} (each : text.all (fun c => decide (OneColumn c)) = true) :
    ∀ c ∈ text, OneColumn c :=
  fun c inside => of_decide_eq_true (List.all_eq_true.1 each c inside)

theorem oneColumn_of_mem_label : ∀ c ∈ label, OneColumn c :=
  forall_oneColumn (by decide)

/-- A diagnostic is the label and what is seen of the message, in order, but for blanks. -/
theorem solid_render {width : Nat} {message : Text} (room : 1 ≤ width)
    (narrow : ∀ c ∈ message, charColumns c ≤ width) :
    solid (render width message) = "pipesh:".toList ++ shown (literal message) := by
  have placed : ∀ c ∈ label ++ literal message, charColumns c ≤ width := by
    intro c inside
    rcases List.mem_append.1 inside with labelled | said
    · exact (oneColumn_of_mem_label c labelled).charColumns_le.trans room
    · exact narrow c (mem_of_mem_literal said)
  rw [render, solid_endLines, solid_wrap room placed, solid_filter_isRemoved, shown_append, shown_label]

/-- Every line of a diagnostic fits. -/
theorem render_fits (width : Nat) {message : Text} (narrow : ∀ c ∈ message, OneColumn c) :
    ∃ lines, render width message = endLines lines ∧
      ∀ line ∈ lines, '\n' ∉ line ∧ line.length ≤ width := by
  refine ⟨wrap width (label ++ literal message), rfl, fun line member => ?_⟩
  have one : ∀ c ∈ line, c ≠ '\n' ∧ charColumns c = 1 := by
    intro c inside
    rcases mem_of_mem_wrap member inside with ⟨origin, noBreak, noTab, kept⟩ | rfl
    · have narrow : OneColumn c := (List.mem_append.1 origin).elim (oneColumn_of_mem_label c)
        fun said => narrow c (mem_of_mem_literal said)
      rcases narrow with one | tab | feed | removed
      · exact ⟨noBreak, one⟩
      · exact absurd tab noTab
      · exact absurd feed noBreak
      · rw [kept] at removed
        cases removed
    · decide
  exact ⟨fun inside => (one _ inside).1 rfl,
    (length_le_columns fun c inside => (one c inside).2.ge).trans (columns_le_of_mem_wrap member)⟩

/-- A diagnostic shows its message as the escaping of tags leaves it, which is the message itself if
and only if there is no trace of the escaping. -/
theorem render_shows_iff {width : Nat} {message : Text} (room : 1 ≤ width)
    (narrow : ∀ c ∈ message, OneColumn c) :
    Shows width (literal message) (render width message) ∧
      (Shows width message (render width message) ↔ Traceless message) := by
  have fits := render_fits width narrow
  have keeps := solid_render room fun c inside => (narrow c inside).charColumns_le.trans room
  have same : shown (literal message) = shown message ↔ Traceless message := by
    rw [shown, shown, solid, solid, List.filter_filter, List.filter_filter]
    exact filter_literal_iff rfl rfl
  refine ⟨⟨fits, keeps⟩, fun shows => ?_, fun traceless => ⟨fits, ?_⟩⟩
  · rw [← same, ← List.append_cancel_left_eq "pipesh:".toList, ← keeps]
    exact shows.keeps
  · rw [keeps, same.2 traceless]

/-- A message with tags, a backslash before one, a tab, a line break and a control, on lines that are
shorter than the label. -/
theorem render_shows_tags :
    1 ≤ 5 ∧ (∀ c ∈ "no \\[red] [x]\tat\n \x07[/] \\\\".toList, OneColumn c) ∧
      Shows 5 "no \\[red] [x]\tat\n \x07[/] \\\\".toList
        (render 5 "no \\[red] [x]\tat\n \x07[/] \\\\".toList) := by
  have narrow : ∀ c ∈ "no \\[red] [x]\tat\n \x07[/] \\\\".toList, OneColumn c :=
    forall_oneColumn (by decide)
  exact ⟨by decide, narrow, (render_shows_iff (by decide) narrow).2.2 (by decide)⟩

/-- A lone backslash at the end is shown twice. -/
theorem backslash_shown_twice :
    1 ≤ 400 ∧ (∀ c ∈ ['\\'], OneColumn c) ∧
      solid (render 400 ['\\']) = "pipesh:\\\\".toList ∧ ¬ Shows 400 ['\\'] (render 400 ['\\']) := by
  have doubled : solid (render 400 ['\\']) = "pipesh:\\\\".toList :=
    solid_render (by decide) (List.forall_mem_singleton.2 (by decide))
  refine ⟨by decide, List.forall_mem_singleton.2 (by decide), doubled, fun shows => ?_⟩
  have once := shows.keeps
  rw [doubled] at once
  exact absurd once (by decide)

end ChainShell.Diagnostics
