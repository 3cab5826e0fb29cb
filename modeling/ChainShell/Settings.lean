import ChainShell.EnvFile
import ChainShell.FileTree.Lookup
import ChainShell.Log
import ChainShell.Number.Reading
import ChainShell.Text.Lines

namespace ChainShell

structure Settings where
  prompt : Text
  lineEditor : Bool
  commandTimeout : Option Binary64
  reportErrors : Bool
  logLevel : Text
  logProfile : LogProfile
  deriving DecidableEq, Repr

namespace Settings

def defaultPrompt : Text := "> ".toList

def default : Settings where
  prompt := defaultPrompt
  lineEditor := false
  commandTimeout := none
  reportErrors := false
  logLevel := Log.defaultLevel
  logProfile := .default

/-- The fields, in the order in which they are reported. -/
inductive Field where
  | prompt
  | lineEditor
  | commandTimeout
  | reportErrors
  | logLevel
  | logProfile
  deriving DecidableEq, Repr

def Field.name : Field → Text
  | .prompt => "prompt".toList
  | .lineEditor => "line_editor".toList
  | .commandTimeout => "command_timeout".toList
  | .reportErrors => "report_errors".toList
  | .logLevel => "log_level".toList
  | .logProfile => "log_profile".toList

/-- The name of the variable of a field, in lower case. -/
def Field.variable (field : Field) : Text :=
  "pipesh_".toList ++ field.name

inductive ValueError where
  | notBoolean
  | notNumber
  | notPositive
  | notProfile
  deriving DecidableEq, Repr

def ValueError.message : ValueError → Text
  | .notBoolean => "Input should be a valid boolean, unable to interpret input".toList
  | .notNumber => "Input should be a valid number, unable to parse string as a number".toList
  | .notPositive => "Input should be greater than 0".toList
  | .notProfile => "Input should be 'default' or 'rich'".toList

/-- The spellings of `true`, in lower case. -/
def trueWords : List Text :=
  ["1", "true", "t", "yes", "y", "on"].map (·.toList)

/-- The spellings of `false`, in lower case. -/
def falseWords : List Text :=
  ["0", "false", "f", "no", "n", "off"].map (·.toList)

def readSwitch (raw : Text) : Except ValueError Bool :=
  let word := raw.map Text.lowerAscii
  if trueWords.contains word then .ok true
  else if falseWords.contains word then .ok false
  else .error .notBoolean

def readTimeout (raw : Text) : Except ValueError Binary64 :=
  match Binary64.read raw with
  | none => .error .notNumber
  | some limit => if limit.isPositive then .ok limit else .error .notPositive

/-- A layout is named exactly. -/
def readProfile (raw : Text) : Except ValueError LogProfile :=
  if raw = "default".toList then .ok .default
  else if raw = "rich".toList then .ok .rich
  else .error .notProfile

/-- The last value under a name in any letter case; the name asked for is in lower case. -/
def lookup {α : Type} (entries : List (Text × α)) (name : Text) : Option α :=
  (entries.reverse.find? fun entry => entry.1.map Text.lowerAscii = name).map (·.2)

/-- The raw value of a field: that of the environment, else that of the file. -/
def rawValue (environment : List (Text × Text)) (file : EnvFile.Variables) (field : Field) :
    Option Text :=
  match lookup environment field.variable with
  | some value => some value
  | none => (lookup file field.variable).join

/-- What a field is: its default without a raw value, else what is read from that. -/
def readField {α : Type} (fallback : α) (read : Text → Except ValueError α) :
    Option Text → Except ValueError α
  | none => .ok fallback
  | some raw => read raw

def failure {α : Type} (field : Field) : Except ValueError α → List (Field × ValueError)
  | .ok _ => []
  | .error e => [(field, e)]

/-- Reads all fields, each on its own; what is wrong is reported for all of them together. -/
def ofVariables (environment : List (Text × Text)) (file : EnvFile.Variables) :
    Except (List (Field × ValueError)) Settings :=
  let raw := rawValue environment file
  let lineEditor := readField default.lineEditor readSwitch (raw .lineEditor)
  let commandTimeout :=
    readField default.commandTimeout (fun raw => (readTimeout raw).map some) (raw .commandTimeout)
  let reportErrors := readField default.reportErrors readSwitch (raw .reportErrors)
  let logProfile := readField default.logProfile readProfile (raw .logProfile)
  match lineEditor, commandTimeout, reportErrors, logProfile with
  | .ok lineEditor, .ok commandTimeout, .ok reportErrors, .ok logProfile =>
    .ok {
      prompt := (raw .prompt).getD default.prompt
      lineEditor := lineEditor
      commandTimeout := commandTimeout
      reportErrors := reportErrors
      logLevel := (raw .logLevel).getD default.logLevel
      logProfile := logProfile }
  | lineEditor, commandTimeout, reportErrors, logProfile =>
    .error (failure .lineEditor lineEditor ++ failure .commandTimeout commandTimeout ++
      failure .reportErrors reportErrors ++ failure .logProfile logProfile)

inductive LoadError where
  | undecodable (error : Utf8.DecodeError)
  | invalid (details : List (Field × ValueError))
  deriving DecidableEq, Repr

def fileName : Text := ".env".toList

/-- The bytes of the file of variables; what is no file counts as none. -/
def fileBytes (files : FileTree) (directory : Path) : Bytes :=
  match files.follow directory fileName with
  | .error _ => []
  | .ok path =>
    match files.node? path with
    | some (.file (.data bytes) _) => bytes
    | _ => []

/-- The settings of a shell that starts in a directory with an environment. -/
def load (files : FileTree) (directory : Path) (environment : List (Text × Text)) :
    Except LoadError Settings :=
  match Utf8.decode (fileBytes files directory) with
  | .error e => .error (.undecodable e)
  | .ok text =>
    let file := EnvFile.defined environment (EnvFile.entries (Text.unifyBreaks text))
    match ofVariables environment file with
    | .error details => .error (.invalid details)
    | .ok settings => .ok settings

end Settings

end ChainShell
