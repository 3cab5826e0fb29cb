import ChainShell.Text.Basic

namespace ChainShell

structure Command where
  name : Text
  args : List Text
  deriving DecidableEq, Repr

/-- One element of a chain: a command alone, or two commands joined by a pipe. -/
inductive Element where
  | single (command : Command)
  | piped (first second : Command)
  deriving DecidableEq, Repr

def Command.text (command : Command) : Text :=
  Text.join [' '] (command.name :: command.args)

/-- The text of an element, as the history records it. -/
def Element.text : Element → Text
  | .single command => command.text
  | .piped first second => first.text ++ [' ', '|', ' '] ++ second.text

end ChainShell
