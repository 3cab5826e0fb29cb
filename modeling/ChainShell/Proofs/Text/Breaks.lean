import ChainShell.Proofs.Text.Lines

namespace ChainShell.Text

/-- Whether a text is free of carriage returns and line feeds. -/
def Unbroken (text : Text) : Prop :=
  '\r' ∉ text ∧ '\n' ∉ text

/-- A text cut at its line breaks, each of them a carriage return, a line feed or the one followed by the other:
the lines that the breaks end, and what is left behind the last break. -/
inductive Lines : Text → List Text → Text → Prop
  | rest {rest : Text} : Unbroken rest → Lines rest [] rest
  | pair {line more rest : Text} {lines : List Text} : Unbroken line → Lines more lines rest →
      Lines (line ++ '\r' :: '\n' :: more) (line :: lines) rest
  | carriageReturn {line more rest : Text} {lines : List Text} : Unbroken line → more.head? ≠ some '\n' →
      Lines more lines rest → Lines (line ++ '\r' :: more) (line :: lines) rest
  | lineFeed {line more rest : Text} {lines : List Text} : Unbroken line → Lines more lines rest →
      Lines (line ++ '\n' :: more) (line :: lines) rest

/-- What is behind the last line break is a line too, unless nothing is. -/
def finalLine (rest : Text) : List Text :=
  if rest = [] then [] else [rest]

theorem unifyBreaks_pair (rest : Text) : unifyBreaks ('\r' :: '\n' :: rest) = '\n' :: unifyBreaks rest :=
  rfl

theorem unifyBreaks_cons {c : Char} {rest : Text} (apart : c ≠ '\r' ∨ rest.head? ≠ some '\n') :
    unifyBreaks (c :: rest) = (if c = '\r' then '\n' else c) :: unifyBreaks rest := by
  rw [unifyBreaks]
  rintro more rfl rfl
  simp at apart

theorem getLast?_ne_of_cons {c d : Char} {rest : Text} (other : (d :: rest).getLast? ≠ some c) :
    rest.getLast? ≠ some c := by
  intro last
  rw [List.getLast?_cons, last] at other
  exact other rfl

/-- Two parts of a text can be taken one by one, unless a line break stands across the cut. -/
theorem unifyBreaks_append {one other : Text} (apart : one.getLast? ≠ some '\r' ∨ other.head? ≠ some '\n') :
    unifyBreaks (one ++ other) = unifyBreaks one ++ unifyBreaks other := by
  fun_induction unifyBreaks one with
  | case1 => rfl
  | case2 rest ih =>
    have apart := apart.imp_left fun other => getLast?_ne_of_cons (getLast?_ne_of_cons other)
    simp only [List.cons_append, unifyBreaks_pair, ih apart]
  | case3 c rest notPair ih =>
    have single : c ≠ '\r' ∨ (rest ++ other).head? ≠ some '\n' := by
      rcases rest with _ | ⟨d, more⟩
      · simpa using apart
      · rw [← not_and_or]
        rintro ⟨rfl, next⟩
        obtain rfl : d = '\n' := by simpa using next
        exact notPair more rfl rfl
    rw [List.cons_append, unifyBreaks_cons single, ih (apart.imp_left getLast?_ne_of_cons), List.cons_append]

theorem unifyBreaks_of_not_mem {text : Text} (free : '\r' ∉ text) : unifyBreaks text = text := by
  induction text with
  | nil => rfl
  | cons c rest ih =>
    rw [List.mem_cons, not_or] at free
    rw [unifyBreaks_cons (.inl (Ne.symm free.1)), if_neg (Ne.symm free.1), ih free.2]

namespace Unbroken

variable {line : Text}

theorem cons {c : Char} (solid : c ≠ '\r' ∧ c ≠ '\n') (unbroken : Unbroken line) : Unbroken (c :: line) := by
  simp only [Unbroken, List.mem_cons, not_or]
  exact ⟨⟨solid.1.symm, unbroken.1⟩, solid.2.symm, unbroken.2⟩

theorem dropLineBreaks_eq (unbroken : Unbroken line) : dropLineBreaks line = line := by
  refine List.rdropWhile_eq_self_iff.2 fun nonempty isBreak => ?_
  have inside := List.getLast_mem nonempty
  rcases isLineBreak_eq_true_iff.1 isBreak with isReturn | isFeed
  · exact unbroken.1 (isReturn ▸ inside)
  · exact unbroken.2 (isFeed ▸ inside)

theorem dropLineBreaks_feed (unbroken : Unbroken line) : dropLineBreaks (line ++ ['\n']) = line :=
  (List.rdropWhile_concat_pos isLineBreak line '\n' rfl).trans unbroken.dropLineBreaks_eq

theorem unifyBreaks_append (unbroken : Unbroken line) (more : Text) :
    unifyBreaks (line ++ more) = line ++ unifyBreaks more := by
  have apart : line.getLast? ≠ some '\r' := fun last => unbroken.1 (List.mem_of_getLast? last)
  rw [Text.unifyBreaks_append (.inl apart), unifyBreaks_of_not_mem unbroken.1]

end Unbroken

namespace Lines

variable {text rest : Text} {lines : List Text}

/-- With its line breaks made one, a text is its lines, each with a line feed, and what is left. -/
theorem unifyBreaks_eq (cut : Lines text lines rest) :
    unifyBreaks text = lines.flatMap (· ++ ['\n']) ++ rest := by
  induction cut with
  | rest unbroken => exact unifyBreaks_of_not_mem unbroken.1
  | pair unbroken _ ih =>
    rw [unbroken.unifyBreaks_append, unifyBreaks_pair, ih, List.flatMap_cons, List.append_assoc,
      List.append_assoc, List.singleton_append]
  | carriageReturn unbroken alone _ ih =>
    rw [unbroken.unifyBreaks_append, unifyBreaks_cons (.inr alone), ih, List.flatMap_cons, List.append_assoc,
      List.append_assoc, List.singleton_append, if_pos rfl]
  | lineFeed unbroken _ ih =>
    rw [unbroken.unifyBreaks_append, unifyBreaks_cons (.inl (by decide)), ih, List.flatMap_cons,
      List.append_assoc, List.append_assoc, List.singleton_append, if_neg (by decide)]

theorem unbroken (cut : Lines text lines rest) : (∀ line ∈ lines, Unbroken line) ∧ Unbroken rest := by
  induction cut with
  | rest unbroken => exact ⟨fun _ => nofun, unbroken⟩
  | pair unbroken _ ih | carriageReturn unbroken _ _ ih | lineFeed unbroken _ ih =>
    exact ⟨List.forall_mem_cons.2 ⟨unbroken, ih.1⟩, ih.2⟩

theorem exists_of_cons {c : Char} (solid : c ≠ '\r' ∧ c ≠ '\n') (cut : Lines text lines rest) :
    ∃ lines rest, Lines (c :: text) lines rest := by
  cases cut with
  | rest unbroken => exact ⟨[], _, .rest (unbroken.cons solid)⟩
  | pair unbroken further => exact ⟨_, rest, .pair (unbroken.cons solid) further⟩
  | carriageReturn unbroken alone further =>
    exact ⟨_, rest, .carriageReturn (unbroken.cons solid) alone further⟩
  | lineFeed unbroken further => exact ⟨_, rest, .lineFeed (unbroken.cons solid) further⟩

theorem exists_of_text (text : Text) : ∃ lines rest, Lines text lines rest := by
  have empty : Unbroken [] := ⟨List.not_mem_nil, List.not_mem_nil⟩
  fun_induction unifyBreaks text with
  | case1 => exact ⟨[], [], .rest empty⟩
  | case2 more ih =>
    obtain ⟨lines, rest, cut⟩ := ih
    exact ⟨_, rest, .pair empty cut⟩
  | case3 c more notPair ih =>
    obtain ⟨lines, rest, cut⟩ := ih
    by_cases isReturn : c = '\r'
    · subst isReturn
      refine ⟨_, rest, .carriageReturn empty (fun next => ?_) cut⟩
      obtain ⟨_, rfl⟩ := List.head?_eq_some_iff.1 next
      exact notPair _ rfl rfl
    by_cases isFeed : c = '\n'
    · subst isFeed
      exact ⟨_, rest, .lineFeed empty cut⟩
    · exact cut.exists_of_cons ⟨isReturn, isFeed⟩

theorem splitOn_unifyBreaks (cut : Lines text lines rest) :
    splitOn '\n' (unifyBreaks text) = lines ++ [rest] := by
  obtain ⟨unbroken, last⟩ := cut.unbroken
  rw [cut.unifyBreaks_eq]
  clear cut
  induction lines with
  | nil => exact splitOn_of_not_mem last.2
  | cons line lines ih =>
    rw [List.forall_mem_cons] at unbroken
    rw [List.flatMap_cons, List.append_assoc, List.append_assoc, List.singleton_append,
      splitOn_append_cons_of_not_mem unbroken.1.2, ih unbroken.2, List.cons_append]

/-- A text is cut in one way: the lines stand between the line feeds once the line breaks are made one. -/
theorem unique {lines' : List Text} {rest' : Text} (cut : Lines text lines rest)
    (cut' : Lines text lines' rest') : lines' = lines ∧ rest' = rest := by
  have same := cut.splitOn_unifyBreaks.symm.trans cut'.splitOn_unifyBreaks
  obtain ⟨sameLines, sameRest⟩ := List.append_inj' same rfl
  exact ⟨sameLines.symm, (List.head_eq_of_cons_eq sameRest).symm⟩

end Lines

end ChainShell.Text
