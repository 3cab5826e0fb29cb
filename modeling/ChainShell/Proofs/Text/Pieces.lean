import ChainShell.Text.Basic
import Mathlib.Data.List.Basic

namespace ChainShell.Text

theorem splitWhere_eq_splitOnP (p : Char → Bool) (text : Text) :
    splitWhere p text = List.splitOnP p text := by
  induction text with
  | nil => rfl
  | cons c rest ih =>
    obtain ⟨piece, pieces, cut⟩ := List.exists_cons_of_ne_nil (List.splitOnP_ne_nil p rest)
    rw [splitWhere_cons, List.splitOnP_cons_eq_if_modifyHead, ih, cut]
    rfl

variable {separator : Char}

theorem splitOn_eq_list_splitOn (separator : Char) (text : Text) :
    splitOn separator text = List.splitOn separator text :=
  splitWhere_eq_splitOnP _ text

theorem splitOn_ne_nil (separator : Char) (text : Text) : splitOn separator text ≠ [] :=
  splitWhere_ne_nil _ text

theorem exists_splitOn_concat (separator : Char) (text : Text) :
    ∃ front last, splitOn separator text = front ++ [last] :=
  (List.eq_nil_or_concat' _).resolve_left (splitOn_ne_nil separator text)

theorem splitOn_of_not_mem {text : Text} (free : separator ∉ text) :
    splitOn separator text = [text] := by
  rw [splitOn_eq_list_splitOn, List.splitOn_eq_singleton free]

/-- A separator ends the piece before it, whatever stands on its sides. -/
theorem splitOn_append_separator (left right : Text) :
    splitOn separator (left ++ separator :: right) = splitOn separator left ++ splitOn separator right := by
  simp only [splitOn_eq_list_splitOn, List.splitOn_append_cons_self]

theorem splitOn_append_cons_of_not_mem {left : Text} (free : separator ∉ left) (right : Text) :
    splitOn separator (left ++ separator :: right) = left :: splitOn separator right := by
  rw [splitOn_append_separator, splitOn_of_not_mem free, List.singleton_append]

theorem splitOn_append_flatMap {piece : Text} {pieces : List Text} (free : separator ∉ piece)
    (allFree : ∀ other ∈ pieces, separator ∉ other) :
    splitOn separator (piece ++ pieces.flatMap (separator :: ·)) = piece :: pieces := by
  induction pieces generalizing piece with
  | nil => rw [List.flatMap_nil, List.append_nil, splitOn_of_not_mem free]
  | cons next rest ih =>
    rw [List.forall_mem_cons] at allFree
    rw [List.flatMap_cons, List.cons_append, splitOn_append_cons_of_not_mem free, ih allFree.1 allFree.2]

theorem join_splitOn (separator : Char) (text : Text) :
    join [separator] (splitOn separator text) = text := by
  rw [splitOn_eq_list_splitOn, join, List.intercalate_splitOn]

@[simp] theorem join_singleton (between piece : Text) : join between [piece] = piece :=
  List.intercalate_singleton

theorem join_cons_cons (between first second : Text) (rest : List Text) :
    join between (first :: second :: rest) = first ++ (between ++ join between (second :: rest)) := by
  rw [join, List.intercalate_cons_cons, List.append_assoc]
  rfl

/-- Joined pieces are the first one, and the others each behind a separator. -/
theorem join_cons (between piece : Text) (pieces : List Text) :
    join between (piece :: pieces) = piece ++ pieces.flatMap (between ++ ·) := by
  induction pieces generalizing piece with
  | nil => simp
  | cons next rest ih => rw [join_cons_cons, ih, List.flatMap_cons, List.append_assoc]

theorem join_concat_concat (separator : Char) (pieces : List Text) (piece last : Text) :
    join [separator] (pieces ++ [piece] ++ [last]) =
      join [separator] (pieces ++ [piece]) ++ separator :: last := by
  cases pieces with
  | nil => simp [join_cons]
  | cons first rest => simp [join_cons]

theorem splitOn_cons_of_ne {c : Char} (other : c ≠ separator) (text : Text) :
    splitOn separator (c :: text) = (splitOn separator text).modifyHead (c :: ·) := by
  have differs : (c == separator) = false := by simpa using other
  simp only [splitOn_eq_list_splitOn, List.splitOn_cons_eq_if_modifyHead, differs, Bool.false_eq_true,
    if_false]

/-- What is free of the separator extends the first piece if it is put in front. -/
theorem splitOn_append_left {before : Text} (free : separator ∉ before) (text : Text) :
    splitOn separator (before ++ text) = (splitOn separator text).modifyHead (before ++ ·) := by
  obtain ⟨piece, pieces, cut⟩ := List.exists_cons_of_ne_nil (splitOn_ne_nil separator text)
  induction before with
  | nil => rw [List.nil_append, cut]; rfl
  | cons c rest ih =>
    rw [List.mem_cons, not_or] at free
    rw [List.cons_append, splitOn_cons_of_ne (Ne.symm free.1), ih free.2, cut]
    rfl

/-- What is free of the separator extends the last piece if it is put behind. -/
theorem exists_splitOn_append_right {after : Text} (free : separator ∉ after) (text : Text) :
    ∃ front last, splitOn separator text = front ++ [last] ∧
      splitOn separator (text ++ after) = front ++ [last ++ after] := by
  induction text with
  | nil => exact ⟨[], [], rfl, splitOn_of_not_mem free⟩
  | cons c rest ih =>
    obtain ⟨front, last, cut, extended⟩ := ih
    by_cases same : c = separator
    · subst same
      have behind (tail : Text) : splitOn c (c :: tail) = [] :: splitOn c tail :=
        splitOn_append_cons_of_not_mem (List.not_mem_nil) tail
      exact ⟨[] :: front, last, by rw [behind, cut]; rfl,
        by rw [List.cons_append, behind, extended]; rfl⟩
    · rw [List.cons_append, splitOn_cons_of_ne same, splitOn_cons_of_ne same, cut, extended]
      cases front with
      | nil => exact ⟨[], c :: last, rfl, rfl⟩
      | cons piece pieces => exact ⟨(c :: piece) :: pieces, last, rfl, rfl⟩

/-- No piece has a character in it that was cut at. -/
theorem not_of_mem_splitWhere {p : Char → Bool} {piece text : Text}
    (member : piece ∈ splitWhere p text) : ∀ c ∈ piece, p c = false := by
  induction text generalizing piece with
  | nil =>
    rw [splitWhere_nil, List.mem_singleton] at member
    simp [member]
  | cons c rest ih =>
    rw [splitWhere_cons] at member
    split at member
    · rcases List.mem_cons.1 member with rfl | later
      · simp
      · exact ih later
    · rename_i kept
      obtain ⟨first, pieces, cut⟩ := List.exists_cons_of_ne_nil (splitWhere_ne_nil p rest)
      rw [cut, extendHead, List.mem_cons] at member
      rcases member with rfl | later
      · intro d inside
        rcases List.mem_cons.1 inside with rfl | inside
        · simpa using kept
        · exact ih (cut ▸ List.mem_cons_self) d inside
      · exact ih (cut ▸ List.mem_cons_of_mem _ later)

theorem not_mem_of_mem_splitOn {piece text : Text} (member : piece ∈ splitOn separator text) :
    separator ∉ piece := by
  intro inside
  have kept := not_of_mem_splitWhere member separator inside
  simp at kept

theorem mem_of_mem_splitOn {c : Char} {piece text : Text} (member : piece ∈ splitOn separator text)
    (inside : c ∈ piece) : c ∈ text := by
  obtain ⟨first, rest, cut⟩ := List.exists_cons_of_ne_nil (splitOn_ne_nil separator text)
  have whole := join_splitOn separator text
  rw [cut, join_cons] at whole
  rw [cut] at member
  rw [← whole, List.mem_append, List.mem_flatMap]
  rcases List.mem_cons.1 member with rfl | later
  · exact .inl inside
  · exact .inr ⟨piece, later, List.mem_append_right [separator] inside⟩

end ChainShell.Text
