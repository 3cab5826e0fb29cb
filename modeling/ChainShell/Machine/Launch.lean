import ChainShell.Machine.Script.Run

namespace ChainShell.Machine

/-- The programs of the machine, apart from those that start others. -/
def programs : List (String × Program) :=
  [("echo", echo), ("printf", printf), ("cat", cat), ("wc", wc), ("head", head), ("tail", tail),
    ("sort", sort), ("uniq", uniq), ("tr", tr), ("seq", seq), ("cut", cut), ("tac", tac),
    ("rev", rev), ("basename", basename), ("dirname", dirname), ("sleep", sleep), ("true", succeed),
    ("false", fail), ("yes", yes), ("pwd", pwd), ("ls", ls), ("mkdir", mkdir), ("rmdir", rmdir),
    ("touch", touch), ("rm", rm), ("mv", mv), ("cp", cp), ("ln", ln), ("chmod", chmod),
    ("readlink", readlink), ("tee", tee), ("test", test), ("[", bracket), ("sync", succeed),
    ("whoami", say "root".toList), ("uname", say "Linux".toList)]

def shells : List String := ["sh", "dash"]

/-- The name of the program that sets variables for another one. -/
def environmentProgram : String := "env"

def programNames : List Text :=
  (programs.map (·.1) ++ shells ++ [environmentProgram]).map (·.toList)

/-- The directories that are searched for a name without a slash. -/
def searchPath : List Text :=
  ["/usr/bin/", "/bin/"].map (·.toList)

/-- The length of an argument that is too long. -/
def argumentLimit : Nat := 131072

/-- The length of all arguments together that is too long, each with what ends it and what points to
it. -/
def argumentsLimit : Nat := 2097152

def areTooLong (args : List Text) : Bool :=
  let lengths := args.map FileTree.byteLength
  lengths.any (argumentLimit ≤ ·) || argumentsLimit < lengths.foldl (· + · + 9) 0

/-- How much of a file is looked at for the program to run it. -/
def headerLimit : Nat := 256

def isHeaderBlank (b : UInt8) : Bool :=
  b == 32 || b == 9

/-- The program that a script names in its first line, and the argument for it. -/
def header? (data : Bytes) : Option (Text × List Text) :=
  match data.take headerLimit with
  | 35 :: 33 :: rest =>
    let first := rest.takeWhile (· != 10)
    let trimmed := (first.dropWhile isHeaderBlank).reverse.dropWhile isHeaderBlank |>.reverse
    let name := trimmed.takeWhile (!isHeaderBlank ·)
    let argument := (trimmed.drop name.length).dropWhile isHeaderBlank
    if name.isEmpty || (first.length = rest.length && headerLimit ≤ data.length &&
        name.length = trimmed.length) then none
    else some (textOf name, if argument.isEmpty then [] else [textOf argument])
  | _ => none

/-- The arguments of a program that runs scripts: where the source comes from, the name and the
parameters. -/
inductive ScriptArgs where
  | command (source name : Text) (params : List Text)
  | file (path : Text) (params : List Text)
  | input (params : List Text)
  | misuse
  deriving DecidableEq, Repr

/-- Reads such arguments; of the options, only those that change where the source is matter. -/
def ScriptArgs.read : List Text → ScriptArgs
  | [] => .input []
  | argument :: rest =>
    match argument with
    | ['-', '-'] =>
      match rest with
      | [] => .input []
      | path :: params => .file path params
    | '-' :: c :: letters =>
      if (c :: letters).contains 'c' then
        match rest with
        | [] => .misuse
        | source :: [] => .command source "sh".toList []
        | source :: name :: params => .command source name params
      else if (c :: letters).contains 's' then .input rest
      else if (c :: letters).all (['e', 'u', 'x', 'f'].contains ·) then ScriptArgs.read rest
      else .misuse
    | _ => .file argument rest

/-- Runs a script; its file may be searched for like a program. -/
def runScript (setting : Script.Setting) (files : FileTree) (process : Process) : Result :=
  match ScriptArgs.read process.args with
  | .misuse => .refused files process 2
  | .command source name params => Script.runText setting files name params process source
  | .input params =>
    Script.runText setting files "sh".toList params { process with input := [] } (textOf process.input)
  | .file path params =>
    match readFile files process.directory path with
    | .data data => Script.runText setting files path params process (textOf data)
    | .zeros => .endless files []
    | .directory => .refused files process 0
    | .failed => .refused files process 2

/-- Whether a text is a name, an equals sign and a value. -/
def isSetting (text : Text) : Bool :=
  text.contains '=' && text.head? != some '='

/-- Runs another program with more variables, or writes the variables. -/
def runEnvironment (launch : Script.Launch) (files : FileTree) (process : Process) : Result :=
  let (cleared, args) := match process.args with
    | ['-', 'i'] :: rest => (true, rest)
    | ['-'] :: rest => (true, rest)
    | args => (false, args)
  let settings := args.takeWhile isSetting
  let added := settings.map fun text =>
    (text.takeWhile (· != '='), (text.dropWhile (· != '=')).drop 1)
  let kept := if cleared then [] else process.environment.filter fun entry => (added.lookup entry.1).isNone
  let environment := kept ++ added
  match args.drop settings.length with
  | [] => .plain files process (environment.flatMap fun (name, value) => line (name ++ '=' :: value)) 0
  | name :: args =>
    if name.head? = some '-' then .refused files process 125
    else
      match launch files name { process with args := args, environment := environment } with
      | .ok result => result
      | .error .noEntry => .refused files process 127
      | .error .notDirectory => .refused files process 127
      | .error _ => .refused files process 126

def runNamed (launch : Script.Launch) (deadline : Option Nat) (files : FileTree) (name : Text)
    (process : Process) : Result :=
  if shells.any (·.toList = name) then runScript ⟨launch, deadline⟩ files process
  else if environmentProgram.toList = name then runEnvironment launch files process
  else
    match programs.find? (·.1.toList = name) with
    | some (_, program) => program files process
    | none => .refused files process 0

/-- Runs the file at a path. `interpreters` is how many files may still name another to run them. -/
def runFile (launch : Script.Launch) (deadline : Option Nat) (files : FileTree) (process : Process)
    (args : List Text) (path : Text) : Nat → Except Errno Result
  | 0 => .error .tooManyLinks
  | interpreters + 1 => do
    let place ← files.follow process.directory path
    match files.node? place with
    | some (.file content mode) =>
      if mode &&& 0o111 = 0 then throw .permission
      else if areTooLong (path :: args) then throw .argumentsTooLong
      else
        match content with
        | .program name => return runNamed launch deadline files name { process with args := args }
        | .data data =>
          match header? data with
          | none => throw .execFormat
          | some (interpreter, extra) =>
            runFile launch deadline files process (extra ++ path :: args) interpreter interpreters
    | _ => throw .permission

/-- How often a file may name another to run it. -/
def interpreterLimit : Nat := 5

def candidates (name : Text) : List Text :=
  if name.contains '/' then [name] else searchPath.map (· ++ name)

/-- An error that does not count against a later place. -/
def isAbsence : Errno → Bool
  | .noEntry => true
  | .notDirectory => true
  | _ => false

/-- Tries paths in turn up to the first success; else the answer is the first error that is not the
absence of a file, or the last error. -/
def search {α : Type} (attempt : Text → Except Errno α) : List Text → Except Errno α
  | [] => .error .noEntry
  | path :: rest =>
    match attempt path with
    | .ok found => .ok found
    | .error e =>
      if rest.isEmpty then .error e
      else
        match search attempt rest with
        | .ok found => .ok found
        | .error later => .error (if isAbsence e then later else e)

/-- Starts a program by its name. `depth` is how many programs may start others in turn. -/
def launch (deadline : Option Nat) : Nat → Script.Launch
  | 0, _, _, _ => .error .argumentsTooLong
  | depth + 1, files, name, process =>
    search (fun path =>
      runFile (launch deadline depth) deadline files process process.args path interpreterLimit)
      (candidates name)

end ChainShell.Machine
