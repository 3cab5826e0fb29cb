import ChainShell.Host

namespace ChainShell

/-- Something that happens in a run. Standard output, the reports, the log and the calls to the system
are all views of the trace of these events. -/
inductive Event where
  | prompted (prompt : Text)
  | called (request : Request)
  | exited (command : Command) (status : Int)
  | wrote (data : Bytes)
  | failed (element : Element) (error : ShellError)
  | discarded (line : Text) (error : ShellError)
  | ended (code : Int)
  deriving DecidableEq, Repr

/-- The bytes that one event puts on standard output; `prompts` says whether prompts count. -/
def Event.output (prompts : Bool) : Event → Bytes
  | .prompted prompt => if prompts then Utf8.encode prompt else []
  | .wrote data => data
  | _ => []

namespace Trace

/-- The output of commands, without the prompts. -/
def output (trace : List Event) : Bytes :=
  trace.flatMap (Event.output false)

/-- Everything on standard output: prompts and the output of commands. -/
def transcript (trace : List Event) : Bytes :=
  trace.flatMap (Event.output true)

/-- The errors of elements that were recovered from. -/
def failures (trace : List Event) : List (Element × ShellError) :=
  trace.filterMap fun
    | .failed element error => some (element, error)
    | _ => none

/-- The lines that were given up, with the reason. -/
def discards (trace : List Event) : List (Text × ShellError) :=
  trace.filterMap fun
    | .discarded line error => some (line, error)
    | _ => none

def calls (trace : List Event) : List Request :=
  trace.filterMap fun
    | .called request => some request
    | _ => none

end Trace

end ChainShell
