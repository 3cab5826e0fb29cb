import ChainShell.Text.Basic

namespace ChainShell.Text

def isWithinLine (c : Char) : Bool :=
  c != '\n'

/-- The first line, with its line feed if it has one, and what follows it. -/
def splitLine (text : Text) : Text × Text :=
  match text.dropWhile isWithinLine with
  | [] => (text, [])
  | c :: rest => (text.takeWhile isWithinLine ++ [c], rest)

theorem splitLine_append (text : Text) : (splitLine text).1 ++ (splitLine text).2 = text := by
  rw [splitLine]
  split
  · simp
  · rename_i c rest cut
    rw [List.append_assoc, List.singleton_append, ← cut, List.takeWhile_append_dropWhile]

theorem splitLine_ne_nil {text : Text} (nonempty : text ≠ []) : (splitLine text).1 ≠ [] := by
  rw [splitLine]
  split
  · exact nonempty
  · simp

theorem length_splitLine_lt {text : Text} (nonempty : text ≠ []) :
    (splitLine text).2.length < text.length := by
  have whole := congrArg List.length (splitLine_append text)
  rw [List.length_append] at whole
  have line := List.length_pos_iff.2 (splitLine_ne_nil nonempty)
  omega

/-- The characters that are dropped from the end of a line. -/
def isLineBreak (c : Char) : Bool :=
  c == '\r' || c == '\n'

def dropLineBreaks (line : Text) : Text :=
  Text.dropEndWhile isLineBreak line

def unifyBreaks : Text → Text
  | [] => []
  | '\r' :: '\n' :: rest => '\n' :: unifyBreaks rest
  | c :: rest => (if c = '\r' then '\n' else c) :: unifyBreaks rest

theorem length_unifyBreaks_le (text : Text) : (unifyBreaks text).length ≤ text.length := by
  fun_induction unifyBreaks text with
  | case1 => exact Nat.le_refl _
  | case2 rest ih => simp only [List.length_cons]; omega
  | case3 c rest _ ih => simp only [List.length_cons]; omega

end ChainShell.Text
