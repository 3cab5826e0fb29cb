import ChainShell.Chain.Parser
import ChainShell.FileTree.Resolve
import ChainShell.Number.Shortest

namespace ChainShell

/-- Why a child process could not be started. -/
inductive SpawnCause where
  | program (errno : Errno)
  | directory (errno : Errno) (path : Text)
  | embeddedNull
  deriving DecidableEq, Repr

/-- The wording of a spawn cause; a program is named as it was typed. -/
def SpawnCause.message (name : Text) : SpawnCause → Text
  | .program errno => errno.about (Text.quote name)
  | .directory errno path => errno.about ("PosixPath(".toList ++ Text.quote path ++ [')'])
  | .embeddedNull => ChainShell.embeddedNull

/-- Why the output of a child process is not to be had. -/
inductive ExecError where
  | spawn (name : Text) (cause : SpawnCause)
  | stream (name : Text) (cause : Text)
  | timedOut (name : Text) (limit : Binary64)
  deriving DecidableEq, Repr

def ExecError.message : ExecError → Text
  | .spawn name cause => name ++ ": ".toList ++ cause.message name
  | .stream name cause => name ++ ": ".toList ++ cause
  | .timedOut name limit => name ++ ": timed out after ".toList ++ limit.text ++ ['s']

/-- Why a path cannot become the working directory. -/
inductive DirectoryCause where
  | unresolved (error : FileTree.ResolveError)
  | notDirectory
  | barred
  deriving DecidableEq, Repr

def DirectoryCause.message : DirectoryCause → Text
  | .unresolved error => error.message
  | .notDirectory => "not a directory".toList
  | .barred => "permission denied".toList

/-- What is wrong with the arguments of a command of the session's own. -/
inductive ArgumentError where
  | onePathExpected
  | notNumeral (argument : Text)
  | outOfRange (argument : Text)
  deriving DecidableEq, Repr

def ArgumentError.message : ArgumentError → Text
  | .onePathExpected => "cd: expected a single path".toList
  | .notNumeral argument => "exit: ".toList ++ argument ++ ": numeric argument required".toList
  | .outOfRange argument => "exit: ".toList ++ argument ++ ": exit code out of range".toList

/-- An error that the shell recovers from. -/
inductive ShellError where
  | parse (error : ParseError)
  | exec (error : ExecError)
  | directory (argument : Text) (cause : DirectoryCause)
  | arguments (error : ArgumentError)
  deriving DecidableEq, Repr

def ShellError.message : ShellError → Text
  | .parse error => error.message
  | .exec error => error.message
  | .directory argument cause => "cd: ".toList ++ argument ++ ": ".toList ++ cause.message
  | .arguments error => error.message

/-- The kinds of errors, the general ones included. -/
inductive ErrorKind where
  | shell
  | parse
  | exec
  | spawn
  | stream
  | timeout
  | builtin
  | directory
  | argument
  deriving DecidableEq, Repr

def ErrorKind.label : ErrorKind → Text
  | .shell => "PipeshError".toList
  | .parse => "ParseError".toList
  | .exec => "ExecError".toList
  | .spawn => "SpawnError".toList
  | .stream => "StreamError".toList
  | .timeout => "ExecTimeoutError".toList
  | .builtin => "BuiltinError".toList
  | .directory => "DirectoryError".toList
  | .argument => "ArgumentError".toList

def ShellError.kind : ShellError → ErrorKind
  | .parse _ => .parse
  | .exec (.spawn _ _) => .spawn
  | .exec (.stream _ _) => .stream
  | .exec (.timedOut _ _) => .timeout
  | .directory _ _ => .directory
  | .arguments _ => .argument

/-- What is said of an error in an element: its message, or the element and the kind if it has
none. -/
def elementReport (element : Element) (kind : ErrorKind) (message : Text) : Text :=
  if message.isEmpty then element.text ++ ": ".toList ++ kind.label else message

/-- A condition that nothing recovers from. -/
inductive Fault where
  | numeralTooLong (digits : Nat)
  | limitTooLong (limit : Binary64)
  deriving DecidableEq, Repr

/-- The most digits of a numeral that is converted to a number. -/
def numeralLimit : Nat := 4300

/-- The longest wait in milliseconds. -/
def longestWait : Nat := 0x7FFFFFFF

/-- The end of the clock, in nanoseconds. -/
def clockEnd : Nat := 0x7FFFFFFFFFFFFFFF

namespace Binary64

/-- A number of seconds in milliseconds, rounded up; nothing for infinity. -/
def ceilMilliseconds : Binary64 → Option Nat
  | .finite false significand exponent =>
    let (n, d) := scale 2 exponent (1000 * significand) 1
    some ((n + d - 1) / d)
  | .infinite false => none
  | _ => some 0

/-- Whether a time limit is longer than can be waited for. -/
def exceedsWait (limit : Binary64) : Bool :=
  match limit.ceilMilliseconds with
  | none => true
  | some milliseconds => longestWait < milliseconds

end Binary64

def Fault.message : Fault → Text
  | .numeralTooLong digits =>
    "Exceeds the limit (".toList ++ Numeral.ofNat numeralLimit ++
      " digits) for integer string conversion: value has ".toList ++ Numeral.ofNat digits ++
      " digits; use sys.set_int_max_str_digits() to increase the limit".toList
  | .limitTooLong limit =>
    match limit.ceilMilliseconds with
    | none => "cannot convert float infinity to integer".toList
    | some milliseconds =>
      if clockEnd < milliseconds * 1000000 then
        "timestamp too large to convert to C _PyTime_t".toList
      else "timeout is too large".toList

inductive Failure where
  | error (error : ExecError)
  | fault (fault : Fault)
  deriving DecidableEq, Repr

end ChainShell
