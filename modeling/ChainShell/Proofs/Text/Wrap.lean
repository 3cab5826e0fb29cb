import ChainShell.Proofs.Text.Blanks
import ChainShell.Text.Wrap

namespace ChainShell.Text

theorem foldl_charColumns (text : Text) (start : Nat) :
    text.foldl (fun width c => width + charColumns c) start = start + columns text := by
  rw [columns]
  induction text generalizing start with
  | nil => rfl
  | cons c rest ih =>
    rw [List.foldl_cons, List.foldl_cons, ih, ih (0 + charColumns c), Nat.zero_add, Nat.add_assoc]

@[simp] theorem columns_nil : columns [] = 0 := rfl

@[simp] theorem columns_append (left right : Text) :
    columns (left ++ right) = columns left + columns right := by
  rw [columns, List.foldl_append, foldl_charColumns right, ← columns]

@[simp] theorem columns_cons (c : Char) (rest : Text) :
    columns (c :: rest) = charColumns c + columns rest := by
  rw [columns, List.foldl_cons, foldl_charColumns, Nat.zero_add]

@[simp] theorem columns_reverse (text : Text) : columns text.reverse = columns text := by
  induction text with
  | nil => rfl
  | cons c rest ih => simp only [List.reverse_cons, columns_append, ih, columns_cons, columns_nil]; omega

theorem length_le_columns {text : Text} (shown : ∀ c ∈ text, 1 ≤ charColumns c) :
    text.length ≤ columns text := by
  induction text with
  | nil => exact Nat.le_refl 0
  | cons c rest ih =>
    rw [List.forall_mem_cons] at shown
    have behind := ih shown.2
    rw [List.length_cons, columns_cons]
    omega

/-- What a text takes without the blanks at its end. -/
def bodyColumns (text : Text) : Nat :=
  columns (dropEndWhile isBlank text)

theorem bodyColumns_le_columns (text : Text) : bodyColumns text ≤ columns text := by
  obtain ⟨blanks, whole, _⟩ := exists_blanks text
  have parts := congrArg columns whole
  rw [columns_append] at parts
  rw [bodyColumns]
  omega

theorem bodyColumns_append_le (left right : Text) :
    bodyColumns (left ++ right) ≤ columns left + bodyColumns right := by
  rw [bodyColumns, dropEndWhile, List.reverse_append, List.dropWhile_append]
  split
  · exact Nat.le_trans (bodyColumns_le_columns left) (Nat.le_add_right ..)
  · rw [List.reverse_append, List.reverse_reverse, columns_append]
    exact Nat.le_refl _

theorem columns_crop_le (width : Nat) (text : Text) : columns (crop width text) ≤ width := by
  induction text generalizing width with
  | nil => exact Nat.zero_le _
  | cons c rest ih =>
    rw [crop]
    split
    · have behind := ih (width - charColumns c)
      rw [columns_cons]
      omega
    · split
      · exact Nat.zero_le _
      · rename_i room
        have space : columns [' '] = 1 := rfl
        omega

theorem crop_append {width : Nat} {body : Text} (fits : columns body ≤ width) (rest : Text) :
    crop width (body ++ rest) = body ++ crop (width - columns body) rest := by
  induction body generalizing width with
  | nil => rfl
  | cons c tail ih =>
    rw [columns_cons] at fits
    rw [List.cons_append, crop, if_pos (by omega), ih (by omega), columns_cons, List.cons_append,
      Nat.sub_sub]

theorem mem_of_mem_crop {width : Nat} {c : Char} {text : Text} (inside : c ∈ crop width text) :
    c ∈ text ∨ c = ' ' := by
  induction text generalizing width with
  | nil => exact .inl inside
  | cons d rest ih =>
    rw [crop] at inside
    split at inside
    · rcases List.mem_cons.1 inside with rfl | behind
      · exact .inl List.mem_cons_self
      · exact (ih behind).imp_left (List.mem_cons_of_mem d)
    · split at inside
      · cases inside
      · exact .inr (List.mem_singleton.1 inside)

/-- What goes beyond the width at the end of a line is some of the blanks there. -/
theorem exists_dropOverhang (width : Nat) (line : Text) : ∃ blanks,
    dropOverhang width line = dropEndWhile isBlank line ++ blanks ∧ ∀ c ∈ blanks, isBlank c = true := by
  obtain ⟨blanks, whole, blank⟩ := exists_blanks line
  have length := congrArg List.length whole
  rw [List.length_append] at length
  refine ⟨blanks.take (blanks.length - min blanks.length (line.length - width)), ?_,
    fun c inside => blank c (List.mem_of_mem_take inside)⟩
  rw [← List.take_length_add_append, whole, dropOverhang]
  congr 1
  omega

/-- Nothing but blanks is lost at the end of a line that fits without them. -/
theorem solid_crop_dropOverhang {width : Nat} {line : Text} (fits : bodyColumns line ≤ width) :
    solid (crop width (dropOverhang width line)) = solid line := by
  obtain ⟨blanks, shorter, blank⟩ := exists_dropOverhang width line
  have cropped : ∀ c ∈ crop (width - bodyColumns line) blanks, isBlank c = true := by
    intro c inside
    rcases mem_of_mem_crop inside with inside | rfl
    · exact blank c inside
    · rfl
  rw [shorter, crop_append fits, solid_append, ← bodyColumns, solid_of_blanks cropped, List.append_nil,
    solid_dropEndWhile]

theorem mem_of_mem_dropOverhang {width : Nat} {c : Char} {line : Text}
    (inside : c ∈ dropOverhang width line) : c ∈ line :=
  List.mem_of_mem_take inside

/-- Taking a word off a line cuts the line in two. -/
theorem firstChunk_append {line chunk rest : Text} (first : firstChunk line = some (chunk, rest)) :
    chunk ++ rest = line := by
  rw [firstChunk] at first
  split at first
  · cases first
  · simp only [Option.some.injEq, Prod.mk.injEq] at first
    obtain ⟨rfl, rfl⟩ := first
    simp only [List.append_assoc, List.takeWhile_append_dropWhile]

theorem blank_of_firstChunk {line : Text} (none : firstChunk line = none) :
    ∀ c ∈ line, isBlank c = true := by
  rw [firstChunk] at none
  split at none
  · rename_i empty
    by_contra solid
    obtain ⟨before, word, rest, rfl, blank, nonempty, kept, _⟩ := exists_word solid
    rw [List.dropWhile_append_of_pos blank] at empty
    obtain ⟨c, tail, rfl⟩ := List.exists_cons_of_ne_nil nonempty
    have first := kept c List.mem_cons_self
    simp [first] at empty
  · cases none

/-- The words of a line make it up but for blanks at its end. -/
theorem exists_chunks (line : Text) :
    ∃ after, (∀ c ∈ after, isBlank c = true) ∧ (chunks line).flatten ++ after = line := by
  fun_induction chunks line with
  | case1 line none => exact ⟨line, blank_of_firstChunk none, rfl⟩
  | case2 line chunk rest first ih =>
    obtain ⟨after, blank, whole⟩ := ih
    exact ⟨after, blank, by rw [List.flatten_cons, List.append_assoc, whole, firstChunk_append first]⟩

theorem flatten_cutFrom (width : Nat) (piece : List Char) (used : Nat) (word : Text) :
    (cutFrom width piece used word).flatten = piece.reverse ++ word := by
  induction word generalizing piece used with
  | nil => simp [cutFrom]
  | cons c rest ih =>
    rw [cutFrom]
    split
    · rw [List.flatten_cons, ih, List.reverse_singleton, List.singleton_append]
    · rw [ih, List.reverse_cons, List.append_assoc, List.singleton_append]

theorem flatten_cut (width : Nat) (word : Text) : (cut width word).flatten = word :=
  flatten_cutFrom width [] 0 word

theorem columns_le_of_mem_cutFrom {width : Nat} {piece : List Char} {used : Nat} {word part : Text}
    (counted : used = columns piece) (fits : used ≤ width) (narrow : ∀ c ∈ word, charColumns c ≤ width)
    (member : part ∈ cutFrom width piece used word) : columns part ≤ width := by
  induction word generalizing piece used with
  | nil =>
    rw [cutFrom, List.mem_singleton] at member
    rw [member, columns_reverse, ← counted]
    exact fits
  | cons c rest ih =>
    rw [List.forall_mem_cons] at narrow
    rw [cutFrom] at member
    split at member
    · rcases List.mem_cons.1 member with rfl | later
      · rw [columns_reverse, ← counted]
        exact fits
      · exact ih (by simp) narrow.1 narrow.2 later
    · rename_i room
      exact ih (by rw [columns_cons, counted, Nat.add_comm]) (by omega) narrow.2 member

theorem columns_le_of_mem_cut {width : Nat} {word part : Text}
    (narrow : ∀ c ∈ word, charColumns c ≤ width) (member : part ∈ cut width word) :
    columns part ≤ width :=
  columns_le_of_mem_cutFrom columns_nil.symm (Nat.zero_le width) narrow member

namespace Layout

/-- The lines from the first one to the current one. -/
def lines (layout : Layout) : List Text :=
  (layout.current :: layout.done).reverse

def text (layout : Layout) : Text :=
  layout.lines.flatten

@[simp] theorem text_place (layout : Layout) (placed : Text) :
    (layout.place placed).text = layout.text ++ placed := by
  simp [text, lines, place]

@[simp] theorem text_break (layout : Layout) : layout.break.text = layout.text := by
  rw [Layout.break]
  split
  · simp [text, lines]
  · rfl

theorem text_foldl_pieces (layout : Layout) (pieces : List Text) :
    (pieces.foldl (fun layout piece => layout.break.place piece) layout).text =
      layout.text ++ pieces.flatten := by
  induction pieces generalizing layout with
  | nil => simp
  | cons piece rest ih =>
    rw [List.foldl_cons, ih, text_place, text_break, List.flatten_cons, List.append_assoc]

theorem text_word (width : Nat) (layout : Layout) (chunk : Text) :
    (layout.word width chunk).text = layout.text ++ chunk := by
  rw [word]
  split
  · exact text_place layout chunk
  · split
    · rw [text_foldl_pieces, flatten_cut]
    · rw [text_place, text_break]

theorem text_foldl_word (width : Nat) (layout : Layout) (words : List Text) :
    (words.foldl (Layout.word width) layout).text = layout.text ++ words.flatten := by
  induction words generalizing layout with
  | nil => simp
  | cons chunk rest ih => rw [List.foldl_cons, ih, text_word, List.flatten_cons, List.append_assoc]

/-- The width of the current line is counted right, a layout on which nothing has been placed is
empty, and every line fits but for the blanks at its end. -/
structure Sound (width : Nat) (layout : Layout) : Prop where
  counted : layout.used = columns layout.current
  fresh : layout.started = false → layout.current = []
  done : ∀ line ∈ layout.done, bodyColumns line ≤ width
  current : bodyColumns layout.current ≤ width

variable {width : Nat} {layout : Layout}

theorem Sound.fits (sound : layout.Sound width) : ∀ line ∈ layout.lines, bodyColumns line ≤ width := by
  intro line member
  rw [lines, List.mem_reverse, List.mem_cons] at member
  rcases member with rfl | earlier
  · exact sound.current
  · exact sound.done line earlier

theorem Sound.place (sound : layout.Sound width) {placed : Text}
    (room : layout.used + bodyColumns placed ≤ width) : (layout.place placed).Sound width where
  counted := by simp [Layout.place, sound.counted]
  fresh unstarted := by
    simp only [Layout.place, Bool.or_eq_false_iff, Bool.not_eq_false', List.isEmpty_iff] at unstarted
    simp [Layout.place, sound.fresh unstarted.1, unstarted.2]
  done := sound.done
  current := by
    have whole := bodyColumns_append_le layout.current placed
    rw [sound.counted] at room
    exact Nat.le_trans whole room

theorem Sound.break (sound : layout.Sound width) : layout.break.Sound width := by
  rw [Layout.break]
  split
  · exact ⟨rfl, fun _ => rfl, List.forall_mem_cons.2 ⟨sound.current, sound.done⟩, Nat.zero_le width⟩
  · exact sound

theorem Sound.used_break (sound : layout.Sound width) : layout.break.used = 0 := by
  rw [Layout.break]
  split
  · rfl
  · rename_i unstarted
    rw [sound.counted, sound.fresh (by simpa using unstarted), columns_nil]

theorem Sound.foldl_pieces (sound : layout.Sound width) {pieces : List Text}
    (fit : ∀ piece ∈ pieces, columns piece ≤ width) :
    (pieces.foldl (fun layout piece => layout.break.place piece) layout).Sound width := by
  induction pieces generalizing layout with
  | nil => exact sound
  | cons piece rest ih =>
    rw [List.forall_mem_cons] at fit
    refine ih (sound.break.place ?_) fit.2
    rw [sound.used_break, Nat.zero_add]
    exact Nat.le_trans (bodyColumns_le_columns piece) fit.1

theorem Sound.word (sound : layout.Sound width) {chunk : Text}
    (narrow : ∀ c ∈ chunk, charColumns c ≤ width) : (layout.word width chunk).Sound width := by
  rw [Layout.word]
  split
  · rename_i room
    exact sound.place room
  · split
    · exact sound.foldl_pieces fun piece member => columns_le_of_mem_cut narrow member
    · rename_i fits
      refine sound.break.place ?_
      rw [sound.used_break, Nat.zero_add]
      exact Nat.le_of_not_lt fits

theorem Sound.foldl_word (sound : layout.Sound width) {words : List Text}
    (narrow : ∀ chunk ∈ words, ∀ c ∈ chunk, charColumns c ≤ width) :
    (words.foldl (Layout.word width) layout).Sound width := by
  induction words generalizing layout with
  | nil => exact sound
  | cons chunk rest ih =>
    rw [List.forall_mem_cons] at narrow
    exact ih (sound.word narrow.1) narrow.2

end Layout

/-- The lines of a text before blanks are dropped from their ends: they make up the text but for
blanks at its end, and each fits but for those at its own. -/
theorem exists_lines (width : Nat) (line : Text) : ∃ (lines : List Text) (after : Text),
    wrapLine width line = lines.map (fun line => crop width (dropOverhang width line)) ∧
      (∀ c ∈ after, isBlank c = true) ∧ lines.flatten ++ after = line ∧
      ((∀ c ∈ line, charColumns c ≤ width) → ∀ part ∈ lines, bodyColumns part ≤ width) := by
  obtain ⟨after, blank, whole⟩ := exists_chunks line
  rw [wrapLine]
  cases cut : chunks line with
  | nil =>
    rw [cut, List.flatten_nil, List.nil_append] at whole
    subst whole
    refine ⟨[after], [], rfl, by simp, by simp, fun _ part member => ?_⟩
    rw [List.mem_singleton] at member
    rw [member, bodyColumns, dropEndWhile_eq_rdropWhile, List.rdropWhile_eq_nil_iff.2 blank]
    exact Nat.zero_le width
  | cons chunk rest =>
    have empty : (Layout.mk [] [] 0 false).Sound width :=
      ⟨rfl, fun _ => rfl, by simp, Nat.zero_le width⟩
    have placed := Layout.text_foldl_word width ⟨[], [], 0, false⟩ (chunk :: rest)
    refine ⟨_, after, rfl, blank, ?_, fun narrow => (empty.foldl_word ?_).fits⟩
    · rw [cut] at whole
      exact (congrArg (· ++ after) placed).trans whole
    · intro word member c inside
      refine narrow c ?_
      rw [← whole, cut]
      exact List.mem_append_left after (List.mem_flatten.2 ⟨word, member, inside⟩)

theorem solid_wrapLine {width : Nat} {line : Text} (narrow : ∀ c ∈ line, charColumns c ≤ width) :
    solid (wrapLine width line).flatten = solid line := by
  obtain ⟨lines, after, laid, blank, whole, fit⟩ := exists_lines width line
  have kept : ∀ part ∈ lines, solid (crop width (dropOverhang width part)) = solid part :=
    fun part member => solid_crop_dropOverhang (fit narrow part member)
  rw [laid, solid_flatten, List.map_map, Function.comp_def, List.map_congr_left kept, ← solid_flatten,
    ← whole, solid_append, solid_of_blanks blank, List.append_nil]

theorem mem_of_mem_wrapLine {width : Nat} {line part : Text} {c : Char}
    (member : part ∈ wrapLine width line) (inside : c ∈ part) : c ∈ line ∨ c = ' ' := by
  obtain ⟨lines, after, laid, _, whole, _⟩ := exists_lines width line
  rw [laid, List.mem_map] at member
  obtain ⟨origin, member, rfl⟩ := member
  refine (mem_of_mem_crop inside).imp_left fun kept => ?_
  rw [← whole]
  exact List.mem_append_left after
    (List.mem_flatten.2 ⟨origin, member, mem_of_mem_dropOverhang kept⟩)

/-- One more character: the column where it ends, and the text up to it in reverse. -/
def expandStep (state : Nat × Text) (c : Char) : Nat × Text :=
  if c == '\t' then
    (state.1 + tabSpaces state.1, List.replicate (tabSpaces state.1) ' ' ++ state.2)
  else (state.1 + charColumns c, c :: state.2)

theorem expandTabs_eq_foldl (column : Nat) (text : Text) :
    expandTabs column text = (text.foldl expandStep (column, [])).2.reverse := rfl

/-- What stands in front does not matter but for the column where it ends. -/
theorem foldl_expandStep (text : Text) (column : Nat) (expanded : Text) :
    (text.foldl expandStep (column, expanded)).2.reverse =
      expanded.reverse ++ expandTabs column text := by
  rw [expandTabs_eq_foldl]
  induction text generalizing column expanded with
  | nil => simp
  | cons c rest ih =>
    simp only [List.foldl_cons, expandStep]
    split
    · rw [ih, ih _ (_ ++ []), List.reverse_append, List.reverse_append, List.append_assoc]
      rfl
    · rw [ih, ih _ [c], List.reverse_cons, List.append_assoc, List.reverse_singleton]

theorem expandTabs_cons (column : Nat) (c : Char) (rest : Text) :
    expandTabs column (c :: rest) =
      if c = '\t' then
        List.replicate (tabSpaces column) ' ' ++ expandTabs (column + tabSpaces column) rest
      else c :: expandTabs (column + charColumns c) rest := by
  rw [expandTabs_eq_foldl, List.foldl_cons, expandStep]
  by_cases tab : c = '\t'
  · rw [if_pos (by simp [tab]), if_pos tab, foldl_expandStep]
    simp
  · rw [if_neg (by simp [tab]), if_neg tab, foldl_expandStep]
    rfl

theorem mem_of_mem_expandTabs {column : Nat} {c : Char} {text : Text}
    (inside : c ∈ expandTabs column text) : (c ∈ text ∧ c ≠ '\t') ∨ c = ' ' := by
  induction text generalizing column with
  | nil => cases inside
  | cons d rest ih =>
    rw [expandTabs_cons] at inside
    split at inside
    · rcases List.mem_append.1 inside with space | behind
      · exact .inr (List.eq_of_mem_replicate space)
      · exact (ih behind).imp_left fun kept => ⟨List.mem_cons_of_mem d kept.1, kept.2⟩
    · rename_i other
      rcases List.mem_cons.1 inside with rfl | behind
      · exact .inl ⟨List.mem_cons_self, other⟩
      · exact (ih behind).imp_left fun kept => ⟨List.mem_cons_of_mem d kept.1, kept.2⟩

theorem solid_expandTabs (column : Nat) (text : Text) : solid (expandTabs column text) = solid text := by
  induction text generalizing column with
  | nil => rfl
  | cons c rest ih =>
    rw [expandTabs_cons]
    split
    · rename_i tab
      have spaces : ∀ d ∈ List.replicate (tabSpaces column) ' ', isBlank d = true := by
        intro d inside
        rw [List.eq_of_mem_replicate inside]
        rfl
      rw [solid_append, solid_of_blanks spaces, List.nil_append, ih, tab, solid_cons_of_blank rfl]
    · simp only [solid, List.filter_cons] at ih ⊢
      rw [ih]

/-- Every line fits, whatever the text and the width. -/
theorem columns_le_of_mem_wrap {width : Nat} {line text : Text} (member : line ∈ wrap width text) :
    columns line ≤ width := by
  rw [wrap, List.mem_flatMap] at member
  obtain ⟨piece, _, member⟩ := member
  obtain ⟨lines, _, laid, _⟩ := exists_lines width (expandTabs 0 piece)
  rw [laid, List.mem_map] at member
  obtain ⟨part, _, rfl⟩ := member
  exact columns_crop_le width _

theorem isRemoved_iff {c : Char} :
    isRemoved c = true ↔ c = '\x07' ∨ c = '\x08' ∨ c = '\x0b' ∨ c = '\x0c' ∨ c = '\x0d' := by
  have same (code : Char) : (c.toNat == code.toNat) = true ↔ c = code := by
    rw [beq_iff_eq, Char.toNat_inj]
  simp only [isRemoved, Bool.or_eq_true, or_assoc]
  exact or_congr (same '\x07') (or_congr (same '\x08') (or_congr (same '\x0b')
    (or_congr (same '\x0c') (same '\x0d'))))

theorem wrapLine_ne_nil (width : Nat) (line : Text) : wrapLine width line ≠ [] := by
  rw [wrapLine]
  cases chunks line <;> simp

theorem wrap_ne_nil (width : Nat) (text : Text) : wrap width text ≠ [] := by
  obtain ⟨line, lines, cut⟩ :=
    List.exists_cons_of_ne_nil (splitWhere_ne_nil (· == '\n') (text.filter (!isRemoved ·)))
  rw [wrap, splitOn, cut, List.flatMap_cons]
  exact fun empty => wrapLine_ne_nil _ _ (List.append_eq_nil_iff.1 empty).1

/-- What is placed on the lines is what the text shows, and spaces. -/
theorem mem_of_mem_wrap {width : Nat} {line text : Text} {c : Char} (member : line ∈ wrap width text)
    (inside : c ∈ line) :
    (c ∈ text ∧ c ≠ '\n' ∧ c ≠ '\t' ∧ isRemoved c = false) ∨ c = ' ' := by
  rw [wrap, List.mem_flatMap] at member
  obtain ⟨piece, cut, member⟩ := member
  rcases mem_of_mem_wrapLine member inside with placed | space
  · rcases mem_of_mem_expandTabs placed with ⟨shown, noTab⟩ | space
    · have kept := mem_of_mem_splitOn cut shown
      rw [List.mem_filter] at kept
      refine .inl ⟨kept.1, ?_, noTab, by simpa using kept.2⟩
      rintro rfl
      exact not_mem_of_mem_splitOn cut shown
    · exact .inr space
  · exact .inr space

/-- Nothing but blanks and the characters that are never shown is lost on lines that are wide enough
for each character. -/
theorem solid_wrap {width : Nat} (room : 1 ≤ width) {text : Text}
    (narrow : ∀ c ∈ text, charColumns c ≤ width) :
    solid (wrap width text).flatten = solid (text.filter (!isRemoved ·)) := by
  have laid : ∀ pieces : List Text, (∀ piece ∈ pieces, ∀ c ∈ piece, charColumns c ≤ width) →
      solid (pieces.flatMap fun line => wrapLine width (expandTabs 0 line)).flatten =
        solid pieces.flatten := by
    intro pieces each
    induction pieces with
    | nil => rfl
    | cons piece rest ih =>
      rw [List.forall_mem_cons] at each
      have expanded : ∀ c ∈ expandTabs 0 piece, charColumns c ≤ width := by
        intro c inside
        rcases mem_of_mem_expandTabs inside with ⟨shown, _⟩ | rfl
        · exact each.1 c shown
        · exact room
      rw [List.flatMap_cons, List.flatten_append, solid_append, solid_wrapLine expanded,
        solid_expandTabs, ih each.2, List.flatten_cons, solid_append]
  rw [wrap, laid, solid_flatten_splitOn rfl]
  intro piece cut c inside
  exact narrow c (List.mem_of_mem_filter (mem_of_mem_splitOn cut inside))

end ChainShell.Text
