import ChainShell.FileTree.Lookup

namespace ChainShell.Machine

/-- A process as it starts: its arguments, the directory it runs in, its standard input and its
environment. -/
structure Process where
  args : List Text
  directory : Path
  input : Bytes
  environment : List (Text × Text)
  deriving DecidableEq, Repr

/-- What a process leaves: the files, its output, its status (negative for a signal), what it has
not read of its input, and the microseconds it took, which nobody can count for one that does not
end. -/
structure Result where
  files : FileTree
  output : Bytes
  status : Int
  unread : Bytes
  elapsed : Option Nat
  deriving DecidableEq, Repr

/-- What a program makes of the files and of the process that runs it. It reads the whole standard input
or none of it, and writes its output in one piece. -/
abbrev Program := FileTree → Process → Result

/-- The microseconds that starting a process takes. -/
def startTime : Nat := 1000

/-- A process that leaves its input alone. -/
def Result.plain (files : FileTree) (process : Process) (output : Bytes) (status : Int) : Result :=
  ⟨files, output, status, process.input, some startTime⟩

def Result.endless (files : FileTree) (output : Bytes) : Result :=
  ⟨files, output, 0, [], none⟩

def bytes (text : Text) : Bytes :=
  Utf8.encode text

def line (text : Text) : Bytes :=
  bytes text ++ [10]

inductive Source where
  | data (bytes : Bytes)
  | zeros
  | directory
  | failed
  deriving DecidableEq, Repr

def readFile (files : FileTree) (directory : Path) (path : Text) : Source :=
  match files.follow directory path with
  | .error _ => .failed
  | .ok place =>
    match files.node? place with
    | some (.file (.data bytes) _) => .data bytes
    | some (.file (.program _) _) => .data []
    | some .nullDevice => .data []
    | some .zeroDevice => .zeros
    | some .directory | some .barred => .directory
    | some (.link _) | none => .failed

def newFileMode : Nat := 0o644

/-- Where a path leads when something is to be written there: to what exists, or to the last name in
an existing directory, through links that lead to nothing yet. -/
def writePlace (files : FileTree) (directory : Path) (path : Text) : Option Path :=
  match files.follow directory path with
  | .ok place => some place
  | .error .noEntry =>
    if path.getLast? = some '/' then none
    else
      match files.locate directory path with
      | .error _ => none
      | .ok place =>
        match files.node? place with
        | none => some place
        | some (.link target) =>
          match files.locate place.dropLast target with
          | .error _ => none
          | .ok further => if (files.node? further).isNone then some further else none
        | some _ => none
  | .error _ => none

/-- Writes a file, or at its end; nothing if there is no place for it. -/
def writeFile (files : FileTree) (directory : Path) (path : Text) (append : Bool) (data : Bytes) :
    Option FileTree := do
  let place ← writePlace files directory path
  match files.node? place with
  | none => some (files.insert place (.file (.data data) newFileMode))
  | some (.file (.data old) mode) =>
    some (files.insert place (.file (.data (if append then old ++ data else data)) mode))
  | some (.file (.program _) mode) => some (files.insert place (.file (.data data) mode))
  | some .nullDevice | some .zeroDevice => some files
  | some .directory | some .barred | some (.link _) => none

/-- The operands of a program that reads files; standard input if there are none. -/
def inputNames (operands : List Text) : List Text :=
  if operands.isEmpty then [['-']] else operands

/-- The contents of the operands, standard input being read at most once, and what is left of it. -/
def readOperands (files : FileTree) (directory : Path) (input : Bytes) :
    List Text → List (Text × Source) × Bytes
  | [] => ([], input)
  | name :: rest =>
    let (source, left) :=
      if name = ['-'] then (Source.data input, []) else (readFile files directory name, input)
    let (sources, left) := readOperands files directory left rest
    ((name, source) :: sources, left)

/-- A program that turns what is read from its operands into output. A source that gives nothing makes
the status one; one without an end makes the program endless. -/
def ofSources (files : FileTree) (process : Process) (operands : List Text)
    (contents : Source → Option Bytes) (output : List (Text × Bytes) → Bytes) : Result :=
  let (sources, left) := readOperands files process.directory process.input (inputNames operands)
  let read := sources.filterMap fun (name, source) => (contents source).map (name, ·)
  let isData := fun
    | Source.data _ => true
    | _ => false
  if sources.any (·.2 == .zeros) then .endless files []
  else
    ⟨files, output read, if sources.all (isData ·.2) then 0 else 1, left, some startTime⟩

/-- A program that passes over directories. -/
def ofContents (files : FileTree) (process : Process) (operands : List Text)
    (output : List (Text × Bytes) → Bytes) : Result :=
  ofSources files process operands
    (fun
      | .data bytes => some bytes
      | _ => none) output

/-- A program that takes directories for empty files, and still fails on them. -/
def ofReadable (files : FileTree) (process : Process) (operands : List Text)
    (output : List (Text × Bytes) → Bytes) : Result :=
  ofSources files process operands
    (fun
      | .data bytes => some bytes
      | .directory => some []
      | _ => none) output

/-- Lines of some bytes, each without its line feed, and whether the last one has none. -/
def lines (data : Bytes) : List Bytes × Bool :=
  match data.getLast? with
  | none => ([], false)
  | some last =>
    let whole := if last = 10 then data.dropLast else data
    (whole.splitOn 10, last != 10)

/-- Lines with the line feed that ends each of them. -/
def unlines (lines : List Bytes) : Bytes :=
  lines.flatMap (· ++ [10])

end ChainShell.Machine
