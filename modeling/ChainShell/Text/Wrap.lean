import ChainShell.Text.Columns

namespace ChainShell.Text

/-- Spaces up to the next multiple of eight, at least one. -/
def tabSpaces (column : Nat) : Nat :=
  8 - column % 8

/-- Replaces tabs by spaces; `column` is where the text begins on its line. -/
def expandTabs (column : Nat) (text : Text) : Text :=
  let (_, expanded) := text.foldl (fun (column, expanded) c =>
    if c == '\t' then
      (column + tabSpaces column, List.replicate (tabSpaces column) ' ' ++ expanded)
    else (column + charColumns c, c :: expanded)) (column, [])
  expanded.reverse

/-- The blanks at the start, the word, and the blanks after it; `none` if there is no word. -/
def firstChunk (line : Text) : Option (Text × Text) :=
  let lead := line.takeWhile isBlank
  let afterLead := line.dropWhile isBlank
  let word := afterLead.takeWhile (!isBlank ·)
  let afterWord := afterLead.dropWhile (!isBlank ·)
  if word.isEmpty then none
  else some (lead ++ word ++ afterWord.takeWhile isBlank, afterWord.dropWhile isBlank)

theorem length_lt_of_firstChunk {line chunk rest : Text} (h : firstChunk line = some (chunk, rest)) :
    rest.length < line.length := by
  simp only [firstChunk] at h
  split at h
  · cases h
  · rename_i nonempty
    simp only [Option.some.injEq, Prod.mk.injEq] at h
    obtain ⟨_, rfl⟩ := h
    have word : 0 < ((line.dropWhile isBlank).takeWhile (!isBlank ·)).length := by
      rw [List.length_pos_iff]
      intro empty
      simp [empty] at nonempty
    have parts : ((line.dropWhile isBlank).takeWhile (!isBlank ·)).length +
        ((line.dropWhile isBlank).dropWhile (!isBlank ·)).length = (line.dropWhile isBlank).length := by
      rw [← List.length_append, List.takeWhile_append_dropWhile]
    have lead : (line.dropWhile isBlank).length ≤ line.length :=
      (List.dropWhile_suffix _).length_le
    have trail : (((line.dropWhile isBlank).dropWhile (!isBlank ·)).dropWhile isBlank).length ≤
        ((line.dropWhile isBlank).dropWhile (!isBlank ·)).length := (List.dropWhile_suffix _).length_le
    omega

/-- The words of a line, each with the blanks after it and the first with those before it. -/
def chunks (line : Text) : List Text :=
  match _step : firstChunk line with
  | none => []
  | some (chunk, rest) => chunk :: chunks rest
termination_by line.length
decreasing_by exact length_lt_of_firstChunk _step

/-- Cuts into pieces that are at most `width` wide, each as long as that allows. The arguments are
the piece under construction, in reverse, and its width. -/
def cutFrom (width : Nat) (piece : List Char) (used : Nat) : Text → List Text
  | [] => [piece.reverse]
  | c :: rest =>
    if width < used + charColumns c then
      piece.reverse :: cutFrom width [c] (charColumns c) rest
    else cutFrom width (c :: piece) (used + charColumns c) rest

/-- Cuts a word into pieces that are at most `width` wide. -/
def cut (width : Nat) (word : Text) : List Text :=
  cutFrom width [] 0 word

/-- Lines under construction: those that are complete, the last first, the text of the current one,
its width, and whether anything at all has been placed. -/
structure Layout where
  done : List Text
  current : Text
  used : Nat
  started : Bool

/-- Ends the current line, unless nothing has been placed yet. -/
def Layout.break (layout : Layout) : Layout :=
  if layout.started then { layout with done := layout.current :: layout.done, current := [], used := 0 }
  else layout

def Layout.place (layout : Layout) (text : Text) : Layout :=
  { layout with
    current := layout.current ++ text
    used := layout.used + columns text
    started := layout.started || !text.isEmpty }

/-- Places one word: on the current line if it fits there without the blanks after it, else at the
start of the next line, in pieces if it is wider than a line. -/
def Layout.word (width : Nat) (layout : Layout) (chunk : Text) : Layout :=
  let needed := columns (dropEndWhile isBlank chunk)
  if layout.used + needed ≤ width then layout.place chunk
  else if width < needed then
    (cut width chunk).foldl (fun layout piece => layout.break.place piece) layout
  else layout.break.place chunk

/-- Drops blanks at the end as long as the line is longer than the width. -/
def dropOverhang (width : Nat) (line : Text) : Text :=
  let blanks := line.length - (dropEndWhile isBlank line).length
  line.take (line.length - min blanks (line.length - width))

/-- The longest beginning that is at most `width` wide; half a wide character becomes a space. -/
def crop (width : Nat) : Text → Text
  | [] => []
  | c :: rest =>
    if charColumns c ≤ width then c :: crop (width - charColumns c) rest
    else if width = 0 then []
    else [' ']

/-- Lays out one line of text, without tabs and line breaks. A line of blanks only is one line. -/
def wrapLine (width : Nat) (line : Text) : List Text :=
  let lines :=
    match chunks line with
    | [] => [line]
    | words =>
      let layout := words.foldl (Layout.word width) ⟨[], [], 0, false⟩
      (layout.current :: layout.done).reverse
  lines.map fun line => crop width (dropOverhang width line)

/-- Characters that move the cursor and are never shown. -/
def isRemoved (c : Char) : Bool :=
  let n := c.toNat
  n == 0x07 || n == 0x08 || n == 0x0B || n == 0x0C || n == 0x0D

/-- The lines of a text at a given width: line breaks are kept, tabs are replaced by spaces. A line
breaks before a word that does not fit, and the blanks after a word stay with it; those beyond the
width are dropped. -/
def wrap (width : Nat) (text : Text) : List Text :=
  (splitOn '\n' (text.filter (!isRemoved ·))).flatMap fun line => wrapLine width (expandTabs 0 line)

end ChainShell.Text
