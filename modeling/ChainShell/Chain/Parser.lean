import ChainShell.Chain
import ChainShell.Text.Quoted

namespace ChainShell

inductive ParseError where
  | noCommand
  | tooManyStages (segment : Text)
  deriving DecidableEq, Repr

/-- The wording of a parse error; a segment is shown without the blanks around it. -/
def ParseError.message : ParseError → Text
  | .noCommand => "no command given".toList
  | .tooManyStages segment => "expected one or two commands, got ".toList ++ Text.quote (Text.trim segment)

/-- The first word is the name of the command and the others are its arguments. -/
def Command.parse (text : Text) : Except ParseError Command :=
  match Text.words text with
  | [] => .error .noCommand
  | name :: args => .ok ⟨name, args⟩

/-- A segment holds one command, or two with a bar between them. -/
def Element.parse (segment : Text) : Except ParseError Element :=
  match Text.splitOn '|' segment with
  | [text] => do return .single (← Command.parse text)
  | [left, right] => do
    let first ← Command.parse left
    let second ← Command.parse right
    return .piped first second
  | _ => .error (.tooManyStages segment)

namespace Chain

/-- A semicolon at the end opens no further segment. -/
def dropEmptyEnd (segments : List Text) : List Text :=
  if segments.getLast? = some [] then segments.dropLast else segments

/-- The segments of a line: what its semicolons separate, after trimming the line. -/
def segments (line : Text) : List Text :=
  dropEmptyEnd (Text.splitOn ';' (Text.trim line))

/-- Reads segments from the left and stops at the first malformed one. -/
def parseSegments : List Text → Except ParseError (List Element)
  | [] => .ok []
  | segment :: rest => do
    let element ← Element.parse segment
    let elements ← parseSegments rest
    return element :: elements

/-- Reads a whole line; a blank line is the empty chain. Nothing in a line is quoted, and of several
malformed segments the leftmost decides the error. -/
def parse (line : Text) : Except ParseError (List Element) :=
  parseSegments (segments line)

end Chain

end ChainShell
