import ChainShell.LineReader
import ChainShell.Text.Lines

namespace ChainShell.LineReader

open Text

/-- The answer when nothing is left. -/
def endOfText : ReadFailure := .endOfInput "end of input".toList

/-- Reads one line, which ends behind a line feed or where the text ends. The carriage returns and line
feeds at its end are not part of what is read. -/
def readText (text : Text) : Except ReadFailure Text × Text :=
  if text = [] then (.error endOfText, [])
  else (.ok (dropLineBreaks (splitLine text).1), (splitLine text).2)

def plain (prompt : Text) : LineReader Text where
  prompt := some prompt
  read := readText
  remaining := List.length
  remaining_lt := by
    intro source line rest answer
    rw [readText] at answer
    split at answer
    · cases answer
    · rename_i nonempty
      cases answer
      exact length_splitLine_lt nonempty

end ChainShell.LineReader
