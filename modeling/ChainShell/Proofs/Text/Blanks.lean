import ChainShell.Proofs.Text.Pieces
import Mathlib.Data.List.DropRight

namespace ChainShell.Text

theorem dropEndWhile_eq_rdropWhile (p : Char → Bool) (text : Text) :
    dropEndWhile p text = text.rdropWhile p := rfl

theorem trim_append_left {before : Text} (blank : ∀ c ∈ before, isBlank c = true) (text : Text) :
    trim (before ++ text) = trim text := by
  rw [trim, List.dropWhile_append_of_pos blank, trim]

theorem rdropWhile_append_of_forall {p : Char → Bool} {after : Text} (all : ∀ c ∈ after, p c = true)
    (text : Text) : (text ++ after).rdropWhile p = text.rdropWhile p := by
  have reversed : ∀ c ∈ after.reverse, p c = true := fun c inside => all c (List.mem_reverse.1 inside)
  rw [List.rdropWhile, List.reverse_append, List.dropWhile_append_of_pos reversed, List.rdropWhile]

theorem trim_append_right {after : Text} (blank : ∀ c ∈ after, isBlank c = true) (text : Text) :
    trim (text ++ after) = trim text := by
  simp only [trim, dropEndWhile_eq_rdropWhile, List.dropWhile_append]
  split
  · rename_i empty
    rw [List.isEmpty_iff] at empty
    rw [empty, List.dropWhile_eq_nil_iff.2 blank]
  · exact rdropWhile_append_of_forall blank _

theorem exists_trim (text : Text) : ∃ before after, (∀ c ∈ before, isBlank c = true) ∧
    (∀ c ∈ after, isBlank c = true) ∧ text = before ++ (trim text ++ after) := by
  refine ⟨text.takeWhile isBlank, (text.dropWhile isBlank).rtakeWhile isBlank, ?_, ?_, ?_⟩
  · exact fun c inside => List.mem_takeWhile_imp inside
  · exact fun c inside => List.mem_rtakeWhile_imp inside
  · rw [trim, dropEndWhile_eq_rdropWhile, List.rdropWhile_append_rtakeWhile,
      List.takeWhile_append_dropWhile]

theorem trim_trim (text : Text) : trim (trim text) = trim text := by
  obtain ⟨before, after, blankBefore, blankAfter, whole⟩ := exists_trim text
  have stripped := congrArg trim whole
  rw [trim_append_left blankBefore, trim_append_right blankAfter] at stripped
  exact stripped.symm

theorem trim_eq_nil_iff {text : Text} : trim text = [] ↔ ∀ c ∈ text, isBlank c = true := by
  constructor
  · intro empty
    obtain ⟨before, after, blankBefore, blankAfter, whole⟩ := exists_trim text
    rw [empty, List.nil_append] at whole
    intro c inside
    rw [whole, List.mem_append] at inside
    exact inside.elim (blankBefore c) (blankAfter c)
  · intro blank
    have stripped := trim_append_left blank []
    rw [List.append_nil] at stripped
    exact stripped

theorem not_isBlank_of_getLast?_trim {text : Text} {c : Char} (last : (trim text).getLast? = some c) :
    isBlank c = false := by
  have nonempty : trim text ≠ [] := fun empty => by simp [empty] at last
  rw [List.getLast?_eq_some_getLast nonempty, Option.some.injEq] at last
  have kept := List.rdropWhile_last_not isBlank (text.dropWhile isBlank) nonempty
  rw [← last, ← Bool.not_eq_true]
  exact kept

/-- The last character of a text but for the blanks at its end. -/
theorem getLast?_trim_of_solid {c : Char} (solid : isBlank c = false) (before : Text) {after : Text}
    (blank : ∀ d ∈ after, isBlank d = true) : (trim (before ++ c :: after)).getLast? = some c := by
  have whole : before ++ c :: after = before ++ [c] ++ after := by simp
  have kept : ¬ isBlank c = true := by simp [solid]
  rw [whole, trim_append_right blank, trim, dropEndWhile_eq_rdropWhile, List.dropWhile_append]
  split
  · rw [List.dropWhile_cons_of_neg kept, ← List.nil_append [c], List.rdropWhile_concat_neg _ _ _ kept]
    rfl
  · rw [List.rdropWhile_concat_neg _ _ _ kept, List.getLast?_concat]

theorem not_mem_of_blanks {c : Char} (solid : isBlank c = false) {text : Text}
    (blank : ∀ d ∈ text, isBlank d = true) : c ∉ text := by
  intro inside
  rw [blank c inside] at solid
  cases solid

/-- A blank separates the words on its sides. -/
theorem words_append_blank {c : Char} (blank : isBlank c = true) (left right : Text) :
    words (left ++ c :: right) = words left ++ words right := by
  simp only [words, splitWhere_eq_splitOnP, List.splitOnP_append_cons left right blank,
    List.filter_append]

@[simp] theorem words_nil : words [] = [] := rfl

theorem words_append_left {before : Text} (blank : ∀ c ∈ before, isBlank c = true) (text : Text) :
    words (before ++ text) = words text := by
  induction before with
  | nil => rfl
  | cons c rest ih =>
    rw [List.forall_mem_cons] at blank
    rw [List.cons_append, ← List.nil_append (c :: _), words_append_blank blank.1, ih blank.2]
    rfl

theorem words_of_blanks {text : Text} (blank : ∀ c ∈ text, isBlank c = true) : words text = [] := by
  have none := words_append_left blank []
  rwa [List.append_nil] at none

theorem words_append_right {after : Text} (blank : ∀ c ∈ after, isBlank c = true) (text : Text) :
    words (text ++ after) = words text := by
  cases after with
  | nil => rw [List.append_nil]
  | cons c rest =>
    rw [List.forall_mem_cons] at blank
    rw [words_append_blank blank.1, words_of_blanks blank.2, List.append_nil]

theorem words_of_word {word : Text} (nonempty : word ≠ []) (solid : ∀ c ∈ word, isBlank c = false) :
    words word = [word] := by
  rw [words, splitWhere_eq_splitOnP, List.splitOnP_eq_singleton solid]
  simp [nonempty]

/-- A word ends where the text ends or a blank follows. -/
theorem words_append_of_word {word rest : Text} (nonempty : word ≠ [])
    (solid : ∀ c ∈ word, isBlank c = false) (ends : ∀ c, rest.head? = some c → isBlank c = true) :
    words (word ++ rest) = word :: words rest := by
  cases rest with
  | nil => rw [List.append_nil, words_of_word nonempty solid, words_nil]
  | cons c tail =>
    have blank := ends c rfl
    rw [words_append_blank blank, words_of_word nonempty solid, ← List.nil_append (c :: tail),
      words_append_blank blank, words_nil, List.nil_append]
    rfl

/-- A text that is not made of blanks begins with its first word, up to blanks before it. -/
theorem exists_word {text : Text} (solid : ¬ ∀ c ∈ text, isBlank c = true) :
    ∃ before word rest, text = before ++ (word ++ rest) ∧ (∀ c ∈ before, isBlank c = true) ∧
      word ≠ [] ∧ (∀ c ∈ word, isBlank c = false) ∧
      ∀ c, rest.head? = some c → isBlank c = true := by
  obtain ⟨c, tail, found⟩ : ∃ c tail, text.dropWhile isBlank = c :: tail :=
    List.exists_cons_of_ne_nil fun empty => solid (List.dropWhile_eq_nil_iff.1 empty)
  have first := List.head?_dropWhile_not isBlank text
  rw [found] at first
  refine ⟨text.takeWhile isBlank, (c :: tail).takeWhile (!isBlank ·),
    (c :: tail).dropWhile (!isBlank ·), ?_, fun d inside => List.mem_takeWhile_imp inside, ?_, ?_, ?_⟩
  · rw [List.takeWhile_append_dropWhile, ← found, List.takeWhile_append_dropWhile]
  · have kept : isBlank c = false := by simpa using first
    simp [kept]
  · intro d inside
    simpa using List.mem_takeWhile_imp inside
  · intro d starts
    have stop := List.head?_dropWhile_not (!isBlank ·) (c :: tail)
    rw [starts] at stop
    simpa using stop

theorem words_eq_nil_iff {text : Text} : words text = [] ↔ ∀ c ∈ text, isBlank c = true := by
  refine ⟨fun none => ?_, words_of_blanks⟩
  by_contra solid
  obtain ⟨before, word, rest, rfl, blank, nonempty, solidWord, ends⟩ := exists_word solid
  rw [words_append_left blank, words_append_of_word nonempty solidWord ends] at none
  cases none

theorem words_trim (text : Text) : words (trim text) = words text := by
  obtain ⟨before, after, blankBefore, blankAfter, whole⟩ := exists_trim text
  have same := congrArg words whole
  rw [words_append_left blankBefore, words_append_right blankAfter] at same
  exact same.symm

/-- Cutting a trimmed text or the text itself gives the same pieces up to blanks around them. -/
theorem map_trim_splitOn_trim {separator : Char} (solid : isBlank separator = false) (text : Text) :
    (splitOn separator (trim text)).map trim = (splitOn separator text).map trim := by
  obtain ⟨before, after, blankBefore, blankAfter, whole⟩ := exists_trim text
  have free := not_mem_of_blanks solid blankBefore
  have free' := not_mem_of_blanks solid blankAfter
  obtain ⟨front, last, cut, extended⟩ := exists_splitOn_append_right free' (trim text)
  have both : splitOn separator text = (front ++ [last ++ after]).modifyHead (before ++ ·) := by
    rw [← extended, ← splitOn_append_left free, ← whole]
  rw [both, cut]
  cases front with
  | nil => simp [trim_append_left blankBefore, trim_append_right blankAfter]
  | cons piece pieces => simp [trim_append_left blankBefore, trim_append_right blankAfter]

def solid (text : Text) : Text :=
  text.filter (!isBlank ·)

@[simp] theorem solid_append (left right : Text) : solid (left ++ right) = solid left ++ solid right :=
  List.filter_append left right

theorem solid_cons_of_blank {c : Char} (blank : isBlank c = true) (text : Text) :
    solid (c :: text) = solid text :=
  List.filter_cons_of_neg (by simp [blank])

theorem solid_of_blanks {text : Text} (blank : ∀ c ∈ text, isBlank c = true) : solid text = [] := by
  rw [solid, List.filter_eq_nil_iff]
  intro c inside
  simp [blank c inside]

theorem solid_flatten (texts : List Text) : solid texts.flatten = (texts.map solid).flatten :=
  List.filter_flatten

/-- The pieces between separators that are blank make up the text but for its blanks. -/
theorem solid_flatten_splitOn {separator : Char} (blank : isBlank separator = true) (text : Text) :
    solid (splitOn separator text).flatten = solid text := by
  have behind : ∀ pieces : List Text,
      solid (pieces.flatMap ([separator] ++ ·)) = solid pieces.flatten := by
    intro pieces
    induction pieces with
    | nil => rfl
    | cons piece rest ih =>
      rw [List.flatMap_cons, List.singleton_append, List.cons_append, solid_cons_of_blank blank,
        solid_append, ih, List.flatten_cons, solid_append]
  obtain ⟨first, rest, cut⟩ := List.exists_cons_of_ne_nil (splitOn_ne_nil separator text)
  have whole := join_splitOn separator text
  rw [cut, join_cons] at whole
  rw [cut, ← whole, List.flatten_cons, solid_append, solid_append, behind]

/-- A text is what remains without the blanks at its end, and these. -/
theorem exists_blanks (text : Text) :
    ∃ blanks, dropEndWhile isBlank text ++ blanks = text ∧ ∀ c ∈ blanks, isBlank c = true :=
  ⟨text.rtakeWhile isBlank, List.rdropWhile_append_rtakeWhile, fun _ => List.mem_rtakeWhile_imp⟩

theorem solid_dropEndWhile (text : Text) : solid (dropEndWhile isBlank text) = solid text := by
  obtain ⟨blanks, whole, blank⟩ := exists_blanks text
  have parts := congrArg solid whole
  rwa [solid_append, solid_of_blanks blank, List.append_nil] at parts

end ChainShell.Text
