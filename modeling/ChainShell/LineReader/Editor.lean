import ChainShell.LineReader

namespace ChainShell.LineReader

/-- What a line editor answers to one read. -/
inductive EditorEvent where
  | line (text : Text)
  | interrupt
  | closed (message : Text)
  | broken (message : Text)
  deriving DecidableEq, Repr

/-- Reads one line, an interrupted one being empty; an editor without further answers is at the end of
its input. -/
def readEditor : List EditorEvent → Except ReadFailure Text × List EditorEvent
  | [] => (.error (.endOfInput []), [])
  | .line text :: rest => (.ok text, rest)
  | .interrupt :: rest => (.ok [], rest)
  | .closed message :: rest => (.error (.endOfInput message), rest)
  | .broken message :: rest => (.error (.broken message), rest)

/-- Reads from a line editor, which shows its own prompt. -/
def editor : LineReader (List EditorEvent) where
  prompt := none
  read := readEditor
  remaining := List.length
  remaining_lt := by
    intro source line rest answer
    cases source with
    | nil => cases answer
    | cons event later => cases event <;> cases answer <;> exact Nat.lt_succ_self _

end ChainShell.LineReader
