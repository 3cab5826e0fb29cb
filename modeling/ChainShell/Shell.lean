import ChainShell.CommandLine
import ChainShell.LineReader.Chunked
import ChainShell.LineReader.Editor
import ChainShell.Loop
import ChainShell.Settings

namespace ChainShell.Shell

/-- What a shell is started with: the directory it starts in, the environment, standard input, what
a line editor would answer, and the width of the terminal. -/
structure Start where
  directory : Path
  environment : List (Text × Text)
  input : Bytes
  editor : List LineReader.EditorEvent
  columns : Nat
  deriving DecidableEq, Repr

/-- What keeps a shell from running, or stops it, without a code of its own. -/
inductive Crash where
  | settings (error : Settings.LoadError)
  | logging (error : Log.UnknownLevel)
  | directory (error : FileTree.ResolveError)
  | fault (fault : Fault)
  deriving DecidableEq, Repr

/-- What a run of a shell leaves. There is no session if none was started. -/
structure Outcome (World : Type) where
  exitCode : Int
  crash : Option Crash
  session : Option Session
  world : World
  trace : List Event
  errors : Text

/-- The code for an input that ended or failed, and for a crash. -/
def failureCode : Int := 1

/-- The code for a command line that is not understood. -/
def misuseCode : Int := 2

def Outcome.output {World : Type} (outcome : Outcome World) : Bytes :=
  Trace.transcript outcome.trace

/-- Where errors and log lines go: the log, whether errors of lines are reported, and the width. -/
structure Console where
  log : Log.State
  reportErrors : Bool
  columns : Nat
  deriving DecidableEq, Repr

namespace Console

def debug (console : Console) (message : Text) : Text :=
  console.log.write console.columns .debug message

def report (console : Console) (message : Text) : Text :=
  if console.reportErrors then Diagnostics.render console.columns message else []

/-- What is said of something that was given up. -/
def discarding (what : Text) (error : ShellError) : Text :=
  "discarding ".toList ++ what ++ ": ".toList ++ error.message

def event (console : Console) : Event → Text
  | .exited command status =>
    console.debug ("command ".toList ++ command.text ++ " exited with status ".toList ++
      Numeral.ofInt status)
  | .failed element error =>
    console.debug (discarding (Text.quote element.text) error) ++
      console.report (elementReport element error.kind error.message)
  | .discarded line error =>
    console.debug (discarding ("line ".toList ++ Text.quote line) error) ++
      console.report error.message
  | .ended code => console.debug ("exit requested with code ".toList ++ Numeral.ofInt code)
  | .prompted _ | .called _ | .wrote _ => []

/-- What the end of a loop puts on standard error. Errors of the input are always reported. -/
def ending (console : Console) : Loop.Ending → Text
  | .unread (.endOfInput message) =>
    Diagnostics.render console.columns ("input closed: ".toList ++ message)
  | .unread failure =>
    console.debug "input failure".toList ++
      Diagnostics.render console.columns ("cannot read input: ".toList ++ failure.message)
  | .exited _ | .crashed _ => []

end Console

def exitCode : Loop.Ending → Int
  | .exited code => code
  | .unread _ => failureCode
  | .crashed _ => failureCode

def crash? : Loop.Ending → Option Crash
  | .crashed fault => some (.fault fault)
  | _ => none

def ofLoop {World Source : Type} (console : Console) (done : Loop.Outcome World Source) :
    Outcome World where
  exitCode := exitCode done.ending
  crash := crash? done.ending
  session := some done.session
  world := done.world
  trace := done.trace
  errors := done.trace.flatMap console.event ++ console.ending done.ending

def notStarted {World : Type} (world : World) (crash : Crash) : Outcome World where
  exitCode := failureCode
  crash := some crash
  session := none
  world := world
  trace := []
  errors := []

/-- Runs a session over the lines of the chosen reader. -/
def runSession {World : Type} (host : Host World) (world : World) (start : Start)
    (settings : Settings) (console : Console) (session : Session) : Outcome World :=
  if settings.lineEditor then
    ofLoop console (Loop.run host LineReader.editor session world start.editor)
  else
    ofLoop console (Loop.run host (LineReader.chunked settings.prompt) session world
      (LineReader.Chunked.ofBytes start.input))

/-- Runs a shell with settings that have been accepted. -/
def runSettings {World : Type} (host : Host World) (world : World) (start : Start)
    (settings : Settings) : Outcome World :=
  match Log.State.initial.configure settings.logLevel settings.logProfile with
  | (_, some e) => notStarted world (.logging e)
  | (log, none) =>
    match Session.start (host.files world) (Path.text start.directory) settings.commandTimeout with
    | .error e => notStarted world (.directory e)
    | .ok session =>
      runSession host world start settings ⟨log, settings.reportErrors, start.columns⟩ session

/-- A whole run of a shell. Reports and log lines are derived from the trace, so they cannot influence
it. -/
def run {World : Type} (host : Host World) (world : World) (start : Start) : Outcome World :=
  match Settings.load (host.files world) start.directory start.environment with
  | .error e => notStarted world (.settings e)
  | .ok settings => runSettings host world start settings

end ChainShell.Shell
