import ChainShell.Text.Basic

namespace ChainShell

/-- What the arguments of a shell ask for. It takes none but a request for help. -/
inductive CommandLine where
  | shell
  | help
  | misuse
  deriving DecidableEq, Repr

namespace CommandLine

def helpOption : Text := "--help".toList

/-- What ends the options; everything after it is an operand. -/
def optionsEnd : Text := "--".toList

/-- A hyphen alone is an operand, like the empty argument. -/
def isOption : Text → Bool
  | '-' :: _ :: _ => true
  | _ => false

/-- Reads a command line. An unknown option is worse than an operand, and help, once asked for, is
given whatever the operands. -/
def ofArgs (args : List Text) : CommandLine :=
  let front := args.takeWhile (· != optionsEnd)
  let operands := front.filter (!isOption ·) ++ (args.drop front.length).drop 1
  let options := front.filter isOption
  if options.any (· != helpOption) then .misuse
  else if !options.isEmpty then .help
  else if operands.isEmpty then .shell
  else .misuse

end CommandLine

end ChainShell
