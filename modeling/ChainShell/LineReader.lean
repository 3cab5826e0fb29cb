import ChainShell.Event

namespace ChainShell

/-- Why a read gives no line: the input has ended, or reading failed, or what was read is not
text. -/
inductive ReadFailure where
  | endOfInput (message : Text)
  | broken (message : Text)
  | undecodable (error : Utf8.DecodeError)
  deriving DecidableEq, Repr

def ReadFailure.message : ReadFailure → Text
  | .endOfInput message => message
  | .broken message => message
  | .undecodable error => error.message

/-- A reader of lines from sources of one type. A reader that writes its own prompt has none here. A
line that was read is gone, so a source gives finitely many. -/
structure LineReader (Source : Type) where
  prompt : Option Text
  read : Source → Except ReadFailure Text × Source
  remaining : Source → Nat
  remaining_lt : ∀ source line rest, read source = (.ok line, rest) →
    remaining rest < remaining source

namespace LineReader

variable {Source : Type}

def prompting (reader : LineReader Source) : List Event :=
  match reader.prompt with
  | none => []
  | some prompt => [.prompted prompt]

/-- What so many reads in a row give, failures included, with what happens meanwhile. -/
def readMany (reader : LineReader Source) :
    Nat → Source → List (Except ReadFailure Text) × List Event × Source
  | 0, source => ([], [], source)
  | count + 1, source =>
    let (result, rest) := reader.read source
    let (results, events, final) := reader.readMany count rest
    (result :: results, reader.prompting ++ events, final)

end LineReader

end ChainShell
