import ChainShell.Execution

namespace ChainShell

/-- A working directory, the texts of the elements that were attempted, and a time limit for children. -/
structure Session where
  cwd : Path
  history : List Text
  limit : Option Binary64
  deriving DecidableEq, Repr

/-- How the run of a chain ends: at its end, by `exit`, by a pipe whose first command failed, or by
a fault. -/
inductive Ending where
  | completed
  | terminated (code : Int)
  | aborted (error : ExecError)
  | crashed (fault : Fault)
  deriving DecidableEq, Repr

/-- What is left after a run, with the trace of what happened. -/
structure Outcome (World : Type) where
  session : Session
  world : World
  trace : List Event
  ending : Ending

/-- The commands that a session runs itself when they stand alone. -/
inductive Builtin where
  | cd
  | exit
  | history
  deriving DecidableEq, Repr

def Builtin.ofName? (name : Text) : Option Builtin :=
  if name = "cd".toList then some .cd
  else if name = "exit".toList then some .exit
  else if name = "history".toList then some .history
  else none

def exitCodeMin : Int := -0x80000000

def exitCodeMax : Int := 0x7FFFFFFF

/-- What `exit` makes of its arguments. -/
inductive ExitRequest where
  | code (code : Int)
  | error (error : ArgumentError)
  | fault (fault : Fault)
  deriving DecidableEq, Repr

/-- The code that the arguments of `exit` ask for: zero without any, else the first one, which is
digits behind an optional sign; further arguments do not matter. -/
def ExitRequest.ofArgs : List Text → ExitRequest
  | [] => .code 0
  | argument :: _ =>
    let (negative, digits) := Numeral.splitSign argument
    if digits.isEmpty || !digits.all Numeral.isDigit then .error (.notNumeral argument)
    else if numeralLimit < digits.length then .fault (.numeralTooLong digits.length)
    else
      let code := Numeral.signed negative (Numeral.value digits)
      if exitCodeMin ≤ code ∧ code ≤ exitCodeMax then .code code else .error (.outOfRange argument)

namespace Session

/-- Why no session starts in a directory is why its path has no canonical form. -/
def start (files : FileTree) (directory : Text) (limit : Option Binary64) :
    Except FileTree.ResolveError Session :=
  match files.resolve (FileTree.namesFrom [] directory) with
  | .error e => .error e
  | .ok cwd => .ok ⟨cwd, [], limit⟩

def record (session : Session) (element : Element) : Session :=
  { session with history := session.history ++ [element.text] }

/-- The working directory that `cd` would change to. -/
def target (session : Session) (files : FileTree) : List Text → Except ShellError Path
  | [argument] =>
    match files.resolve (FileTree.namesFrom session.cwd argument) with
    | .error e => .error (.directory argument (.unresolved e))
    | .ok path =>
      if !files.isDirectory path then .error (.directory argument .notDirectory)
      else if files.isBarred path then .error (.directory argument .barred)
      else .ok path
  | _ => .error (.arguments .onePathExpected)

/-- The history as `history` lists it, one entry a line. -/
def listing (history : List Text) : Bytes :=
  Utf8.encode (history.flatMap (· ++ ['\n']))

/-- The child that a command asks for in this session. -/
def request (session : Session) (command : Command) (input : Option Bytes) : Request where
  command := command
  directory := Path.text session.cwd
  input := input
  limit := session.limit

def execute {World : Type} (host : Host World) (session : Session) (world : World)
    (command : Command) (input : Option Bytes) : World × List Event × Except Failure Bytes :=
  host.execute world (session.request command input)

def write (data : Bytes) : List Event :=
  if data.isEmpty then [] else [.wrote data]

/-- Ends an element that ran a last command: its output is written, its error passed over. -/
def settle {World : Type} (session : Session) (element : Element) (world : World)
    (trace : List Event) : Except Failure Bytes → Outcome World
  | .ok data => ⟨session, world, trace ++ write data, .completed⟩
  | .error (.error e) => ⟨session, world, trace ++ [.failed element (.exec e)], .completed⟩
  | .error (.fault fault) => ⟨session, world, trace, .crashed fault⟩

/-- Runs a command that stands alone. -/
def runSingle {World : Type} (host : Host World) (session : Session) (world : World)
    (element : Element) (command : Command) : Outcome World :=
  match Builtin.ofName? command.name with
  | some .cd =>
    match session.target (host.files world) command.args with
    | .ok path => ⟨{ session with cwd := path }, world, [], .completed⟩
    | .error e => ⟨session, world, [.failed element e], .completed⟩
  | some .exit =>
    match ExitRequest.ofArgs command.args with
    | .code code => ⟨session, world, [], .terminated code⟩
    | .error e => ⟨session, world, [.failed element (.arguments e)], .completed⟩
    | .fault fault => ⟨session, world, [], .crashed fault⟩
  | some .history =>
    ⟨session, world, write (listing session.history.dropLast), .completed⟩
  | none =>
    let (world, trace, result) := session.execute host world command none
    session.settle element world trace result

/-- Runs two commands, the output of the first being the input of the second. -/
def runPiped {World : Type} (host : Host World) (session : Session) (world : World)
    (element : Element) (first second : Command) : Outcome World :=
  match session.execute host world first none with
  | (world, trace, .ok data) =>
    let (world, more, result) := session.execute host world second (some data)
    session.settle element world (trace ++ more) result
  | (world, trace, .error (.error e)) => ⟨session, world, trace, .aborted e⟩
  | (world, trace, .error (.fault fault)) => ⟨session, world, trace, .crashed fault⟩

def step {World : Type} (host : Host World) (session : Session) (world : World) (element : Element) :
    Outcome World :=
  match element with
  | .single command => (session.record element).runSingle host world element command
  | .piped first second => (session.record element).runPiped host world element first second

/-- Runs the elements of a chain in order, up to the first that does not complete. An element that fails
completes, except for a pipe whose first command fails, which gives up the rest of its line. -/
def run {World : Type} (host : Host World) (session : Session) (world : World) :
    List Element → Outcome World
  | [] => ⟨session, world, [], .completed⟩
  | element :: rest =>
    let first := session.step host world element
    match first.ending with
    | .completed =>
      let more := run host first.session first.world rest
      { more with trace := first.trace ++ more.trace }
    | _ => first

end Session

end ChainShell
