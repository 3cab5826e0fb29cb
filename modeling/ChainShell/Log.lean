import ChainShell.Diagnostics
import ChainShell.Text.UpperCase

namespace ChainShell

inductive LogProfile where
  | default
  | rich
  deriving DecidableEq, Repr

namespace Log

inductive Level where
  | trace
  | debug
  | info
  | success
  | warning
  | error
  | critical
  deriving DecidableEq, Repr

/-- All levels, from the least severe. -/
def Level.all : List Level :=
  [.trace, .debug, .info, .success, .warning, .error, .critical]

def Level.name : Level → Text
  | .trace => "TRACE".toList
  | .debug => "DEBUG".toList
  | .info => "INFO".toList
  | .success => "SUCCESS".toList
  | .warning => "WARNING".toList
  | .error => "ERROR".toList
  | .critical => "CRITICAL".toList

def Level.severity : Level → Nat
  | .trace => 5
  | .debug => 10
  | .info => 20
  | .success => 25
  | .warning => 30
  | .error => 40
  | .critical => 50

def Level.ofName? (name : Text) : Option Level :=
  Level.all.find? (·.name = name)

/-- Where messages go: those of at least the threshold are written, in the profile's layout. -/
structure Sink where
  threshold : Level
  profile : LogProfile
  deriving DecidableEq, Repr

/-- The installed sinks, and the level name and profile of the last configuration that succeeded. -/
structure State where
  sinks : List Sink
  configured : Option (Text × LogProfile)
  deriving DecidableEq, Repr

def State.initial : State := ⟨[], none⟩

/-- The level name is unknown, in the upper-case form in which it was looked up. -/
structure UnknownLevel where
  name : Text
  deriving DecidableEq, Repr

def UnknownLevel.message (e : UnknownLevel) : Text :=
  "Level '".toList ++ e.name ++ "' does not exist".toList

/-- The level that is configured when none is named. -/
def defaultLevel : Text := "WARNING".toList

def State.remove (state : State) : State :=
  { state with sinks := [] }

/-- Installs one more sink, whose threshold is the level with this name. -/
def State.add (state : State) (level : Text) (profile : LogProfile) : Except UnknownLevel State :=
  match Level.ofName? level with
  | none => .error ⟨level⟩
  | some threshold => .ok { state with sinks := state.sinks ++ [⟨threshold, profile⟩] }

/-- Configures logging. The old sinks are removed before the level is looked up, so an unknown level
leaves none, while what is remembered stays. -/
def State.configure (state : State) (level : Text) (profile : LogProfile) :
    State × Option UnknownLevel :=
  let level := Text.upperCase level
  if state.configured = some (level, profile) then (state, none)
  else
    match state.remove.add level profile with
    | .error e => (state.remove, some e)
    | .ok added => ({ added with configured := some (level, profile) }, none)

def padName (width : Nat) (level : Level) : Text :=
  level.name ++ List.replicate (width - level.name.length) ' '

/-- One message in the default layout: as it is, behind the level. -/
def plainEntry (level : Level) (message : Text) : Text :=
  padName 6 level ++ " | ".toList ++ message ++ ['\n']

/-- One message in the rich layout: wrapped to what the level's column leaves of the width, with the
further lines indented as far as the first. -/
def richEntry (width : Nat) (level : Level) (message : Text) : Text :=
  let indent := List.replicate 9 ' '
  match Text.wrap (max 1 (width - 9)) message with
  | [] => []
  | first :: rest =>
    Diagnostics.endLines ((padName 8 level ++ ' ' :: first) :: rest.map (indent ++ ·))

def Sink.write (sink : Sink) (width : Nat) (level : Level) (message : Text) : Text :=
  if level.severity < sink.threshold.severity then []
  else
    match sink.profile with
    | .default => plainEntry level message
    | .rich => richEntry width level message

/-- What is written for a message, by every sink; nothing without one. -/
def State.write (state : State) (width : Nat) (level : Level) (message : Text) : Text :=
  state.sinks.flatMap (·.write width level message)

end Log

end ChainShell
