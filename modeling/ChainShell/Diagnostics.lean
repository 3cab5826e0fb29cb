import ChainShell.Text.Markup
import ChainShell.Text.Wrap

namespace ChainShell.Diagnostics

def label : Text := "pipesh: ".toList

/-- Lines with the line break that ends each of them. -/
def endLines (lines : List Text) : Text :=
  lines.flatMap (· ++ ['\n'])

/-- A message for the operator behind the label, with its tags made literal, laid out at the width of
the terminal. -/
def render (width : Nat) (message : Text) : Text :=
  endLines (Text.wrap width (label ++ Text.literal message))

end ChainShell.Diagnostics
