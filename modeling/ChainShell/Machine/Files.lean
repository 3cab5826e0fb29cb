import ChainShell.Machine.Filter

namespace ChainShell.Machine

def leadsToDirectory (files : FileTree) (directory : Path) (path : Text) : Bool :=
  match files.follow directory path with
  | .ok place => files.isDirectory place
  | .error _ => false

def isLink (files : FileTree) (directory : Path) (path : Text) : Bool :=
  match files.locate directory path with
  | .error _ => false
  | .ok place =>
    match files.node? place with
    | some (.link _) => true
    | _ => false

def sortNames (names : List Text) : List Text :=
  names.mergeSort fun a b => (compareBytes (bytes a) (bytes b)).isLE

/-- The names in a directory as a listing shows them. -/
def listedNames (options : Options) (files : FileTree) (place : Path) : List Text :=
  let names := files.names place
  let shown :=
    if options.has 'a' then ['.'] :: ['.', '.'] :: names
    else if options.has 'A' then names
    else names.filter (·.head? != some '.')
  let sorted := sortNames shown
  if options.has 'r' then sorted.reverse else sorted

/-- What a listing makes of an operand. -/
inductive Listed where
  | missing
  | entry (name : Text)
  | directory (name : Text) (place : Path)
  deriving DecidableEq, Repr

/-- A link that leads nowhere is an entry of its own, one that leads to a directory is that. -/
def listOperand (options : Options) (files : FileTree) (directory : Path) (path : Text) : Listed :=
  match files.follow directory path with
  | .ok place =>
    if files.isDirectory place && !options.has 'd' then .directory path place else .entry path
  | .error .noEntry =>
    match files.locate directory path with
    | .ok place => if (files.node? place).isSome then .entry path else .missing
    | .error _ => .missing
  | .error _ => .missing

/-- What shows the kind of a node behind its name. -/
def kindMark (options : Options) (node : Option Node) : Text :=
  match node with
  | some .directory => if options.has 'p' || options.has 'F' then ['/'] else []
  | some (.link _) => if options.has 'F' then ['@'] else []
  | some (.file _ mode) => if options.has 'F' && mode &&& 0o111 != 0 then ['*'] else []
  | _ => []

/-- Lists entries first and then directories, with headers if there are several operands. -/
def ls : Program := withOptions ['1', 'a', 'A', 'd', 'r', 'p', 'F'] [] 2 fun options files process =>
  let operands := if options.operands.isEmpty then [['.']] else options.operands
  let sorted := sortNames operands
  let sorted := if options.has 'r' then sorted.reverse else sorted
  let all := sorted.map (listOperand options files process.directory)
  let entries := all.filterMap fun
    | .entry name =>
      let node := match files.locate process.directory name with
        | .ok place => files.node? place
        | .error _ => none
      some (name ++ kindMark options node)
    | _ => none
  let directories := all.filterMap fun
    | .directory name place => some (name, (listedNames options files place).map fun name =>
      let shown := if name = ['.'] ∨ name = ['.', '.'] then some .directory
        else files.node? (place ++ [name])
      name ++ kindMark options shown)
    | _ => none
  let blocks := directories.map fun (name, names) =>
    (if 1 < operands.length then line (name ++ [':']) else []) ++ names.flatMap line
  let entryBlock := if entries.isEmpty then [] else [entries.flatMap line]
  let status := if all.contains .missing then 2 else 0
  .plain files process ([10].intercalate (entryBlock ++ blocks)) status

/-- Changes the tree for one operand after the other; the status is one if any of them fails. -/
def forEach (files : FileTree) (process : Process) (operands : List Text)
    (act : FileTree → Text → Option FileTree) : Result :=
  let (files, status) := operands.foldl (fun (files, status) operand =>
    match act files operand with
    | some files => (files, status)
    | none => (files, 1)) (files, (0 : Int))
  .plain files process [] status

/-- A program that changes the tree for each operand, of which there has to be one. -/
def changing (flags valued : List Char)
    (act : Options → Process → FileTree → Text → Option FileTree) : Program :=
  withOptions flags valued 1 fun options files process =>
    if options.operands.isEmpty then .refused files process 1
    else forEach files process options.operands (act options process)

def makeDirectory (files : FileTree) (directory : Path) (path : Text) : Option FileTree :=
  match files.locate directory path with
  | .error _ => none
  | .ok place =>
    if (files.node? place).isSome then none else some (files.insert place .directory)

/-- The beginnings of a path that end before a slash, and the path itself. -/
def beginnings (path : Text) : List Text :=
  let names := Text.splitOn '/' path
  ((List.range (names.length + 1)).map fun count => Text.join ['/'] (names.take count)).filter
    (!·.isEmpty)

/-- Makes directories, with those above them if asked for. -/
def mkdir : Program := changing ['p'] ['m'] fun options process files path =>
  if options.has 'p' then
    (beginnings path).foldlM (fun files path =>
      if leadsToDirectory files process.directory path then some files
      else makeDirectory files process.directory path) files
  else makeDirectory files process.directory path

def removeDirectory (files : FileTree) (directory : Path) (path : Text) : Option FileTree :=
  match files.locate directory path with
  | .error _ => none
  | .ok place =>
    if place != [] && baseName path != ['.'] && files.node? place == some .directory &&
        (files.names place).isEmpty then
      some (files.erase place)
    else none

/-- Removes empty directories, with those above them if asked for. -/
def rmdir : Program := withOptions ['p'] [] 1 fun options files process =>
  let paths :=
    if options.has 'p' then
      options.operands.flatMap fun path => (beginnings (dropEndSlashes path)).reverse
    else options.operands
  if paths.isEmpty then .refused files process 1
  else forEach files process paths fun files path => removeDirectory files process.directory path

def touch : Program := changing ['c', 'a', 'm'] ['d', 't', 'r'] fun options process files path =>
  match files.follow process.directory path with
  | .ok _ => some files
  | .error .noEntry =>
    if options.has 'c' then some files else writeFile files process.directory path true []
  | .error _ => none

def removeOne (options : Options) (directory : Path) (files : FileTree) (path : Text) :
    Option FileTree :=
  let name := baseName path
  if name = ['.'] ∨ name = ['.', '.'] ∨ name = ['/'] then none
  else
    let absent := if options.has 'f' then some files else none
    match files.locate directory path with
    | .error .noEntry => absent
    | .error .notDirectory => absent
    | .error _ => none
    | .ok place =>
      match files.node? place with
      | none => absent
      | some .directory =>
        if options.has 'r' || options.has 'R' ||
            (options.has 'd' && (files.names place).isEmpty) then some (files.erase place)
        else none
      | some _ => if path.getLast? = some '/' then none else some (files.erase place)

/-- Removes files, and directories if asked for. -/
def rm : Program := withOptions ['r', 'R', 'f', 'd', 'i'] [] 1 fun options files process =>
  if options.operands.isEmpty then .refused files process (if options.has 'f' then 0 else 1)
  else forEach files process options.operands (removeOne options process.directory)

/-- Where a file goes: into a directory under its own name, or to the target itself. A link to a
directory counts as one only if it is to be seen through. -/
def destination (files : FileTree) (directory : Path) (source target : Text) (through : Bool) :
    Text :=
  if leadsToDirectory files directory target && (through || !isLink files directory target) then
    dropEndSlashes target ++ '/' :: baseName source
  else target

/-- Applies `act` to sources and the destinations they get from the last operand, which is a
directory if there are several sources. -/
def transfer (flags : List Char) (through : Options → Bool)
    (act : Options → Path → FileTree → Text → Text → Option FileTree) : Program :=
  withOptions flags [] 1 fun options files process =>
  match options.operands.getLast? with
  | none => .refused files process 1
  | some target =>
    let sources := options.operands.dropLast
    if sources.isEmpty ||
        (1 < sources.length && !leadsToDirectory files process.directory target) then
      .refused files process 1
    else
      forEach files process sources fun files source =>
        act options process.directory files source
          (destination files process.directory source target (through options))

/-- Whether a path ends in a link that leads where another path does. -/
def linksTo (files : FileTree) (directory : Path) (link path : Text) : Bool :=
  isLink files directory link &&
    match files.follow directory link, files.follow directory path with
    | .ok place, .ok other => place == other
    | _, _ => false

/-- Moves one file or directory; a directory does not go into itself nor over a full one, and
nothing goes over itself or something of the other kind. -/
def moveOne (options : Options) (directory : Path) (files : FileTree) (source target : Text) :
    Option FileTree :=
  match files.locate directory source, files.locate directory (dropEndSlashes target) with
  | .ok origin, .ok goal =>
    match files.node? origin, files.node? goal with
    | none, _ => none
    | some moved, existing =>
      if origin = goal ∨ origin = [] then none
      else if moved = .directory ∧ origin.isPrefixOf goal then none
      else
        match existing with
        | none =>
          if moved != .directory && target.getLast? == some '/' then none
          else some (files.rename origin goal)
        | some .directory =>
          if moved = .directory ∧ (files.names goal).isEmpty then some (files.rename origin goal)
          else none
        | some _ =>
          if options.has 'n' then some files
          else if moved = .directory || linksTo files directory source target then none
          else some (files.rename origin goal)
  | _, _ => none

def mv : Program := transfer ['f', 'n'] (fun _ => true) moveOne

/-- Copies a directory with all below it. -/
def copyTree (files : FileTree) (origin goal : Path) : FileTree :=
  ⟨files.entries ++ files.entries.filterMap fun (path, node) =>
    if origin.isPrefixOf path then some (goal ++ path.drop origin.length, node) else none⟩

/-- Copies one file, or a directory if asked for. -/
def copyOne (options : Options) (directory : Path) (files : FileTree) (source target : Text) :
    Option FileTree :=
  let recursive := options.has 'r' || options.has 'R' || options.has 'a'
  let origin := if recursive then files.locate directory source else files.follow directory source
  match origin with
  | .error _ => none
  | .ok origin =>
    match files.node? origin with
    | none => none
    | some .directory =>
      if !recursive then none
      else
        match files.locate directory (dropEndSlashes target) with
        | .error _ => none
        | .ok goal =>
          if (files.node? goal).isSome || origin.isPrefixOf goal then none
          else some (copyTree files origin goal)
    | some (.link text) =>
      match files.locate directory target with
      | .error _ => none
      | .ok goal => if (files.node? goal).isSome then none else some (files.insert goal (.link text))
    | some node =>
      match writePlace files directory target with
      | none => none
      | some goal =>
        let dangling := (files.node? goal).isNone &&
          (match files.locate directory target with
            | .ok place => place != goal
            | .error _ => false)
        if goal = origin || dangling then none
        else
          match files.node? goal, node with
          | some .directory, _ => none
          | some (.file _ mode), .file content _ =>
            if options.has 'n' then some files else some (files.insert goal (.file content mode))
          | some _, _ => some files
          | none, node => some (files.insert goal node)

def cp : Program := transfer ['r', 'R', 'a', 'f', 'p', 'n'] (fun _ => true) copyOne

/-- Makes one link. A hard link is a copy. -/
def linkOne (options : Options) (directory : Path) (files : FileTree) (source target : Text) :
    Option FileTree :=
  match files.locate directory target with
  | .error _ => none
  | .ok goal =>
    let free := (files.node? goal).isNone || (options.has 'f' && files.node? goal != some .directory)
    if !free then none
    else if options.has 's' then some (files.insert goal (.link source))
    else
      match files.locate directory source with
      | .error _ => none
      | .ok origin =>
        match files.node? origin with
        | none => none
        | some .directory => none
        | some node => some (files.insert goal node)

/-- Makes links; a single operand is linked to under its own name. -/
def ln : Program := fun files process =>
  match Options.read ['s', 'f', 'n'] [] process.args with
  | some ⟨given, [source]⟩ =>
    forEach files process [source] fun files source =>
      linkOne ⟨given, []⟩ process.directory files source (baseName source)
  | _ => transfer ['s', 'f', 'n'] (!·.has 'n') linkOne files process

/-- A mode with one change such as `u+x` applied. -/
def applyMode (change : Text) (mode : Nat) : Option Nat := do
  let who := change.takeWhile fun c => c == 'u' || c == 'g' || c == 'o' || c == 'a'
  let (operator, letters) ← match change.drop who.length with
    | c :: letters => if c == '+' || c == '-' || c == '=' then some (c, letters) else none
    | [] => none
  let bits ← letters.foldlM (fun bits c =>
    match c with
    | 'r' => some (bits ||| 4)
    | 'w' => some (bits ||| 2)
    | 'x' => some (bits ||| 1)
    | 'X' => some (if mode &&& 0o111 = 0 then bits else bits ||| 1)
    | _ => none) 0
  let all := who.isEmpty || who.contains 'a'
  let mask := (if all || who.contains 'u' then 0o700 else 0) |||
    (if all || who.contains 'g' then 0o070 else 0) ||| (if all || who.contains 'o' then 0o007 else 0)
  let spread := bits * 0o111 &&& mask
  let spread := if who.isEmpty then spread &&& 0o755 else spread
  return if operator == '+' then mode ||| spread
    else if operator == '-' then mode - (mode &&& spread)
    else mode - (mode &&& mask) + spread

def chmod : Program := fun files process =>
  match process.args with
  | change :: operands =>
    if operands.isEmpty then .refused files process 1
    else
      forEach files process operands fun files path =>
        match files.follow process.directory path with
        | .error _ => none
        | .ok place =>
          match files.node? place with
          | some (.file content mode) =>
            let changed := match readOctal change with
              | some mode => some mode
              | none => (Text.splitOn ',' change).foldlM (fun mode change => applyMode change mode) mode
            changed.map fun mode => files.insert place (.file content mode)
          | some _ => some files
          | none => none
  | [] => .refused files process 1

def readlink : Program := withOptions ['f', 'e', 'n'] [] 1 fun options files process =>
  let answers := options.operands.map fun path =>
    if options.has 'f' || options.has 'e' then
      match files.follow process.directory path with
      | .ok place => some (Path.text place)
      | .error _ =>
        if options.has 'e' then none
        else (writePlace files process.directory path).map Path.text
    else
      match files.locate process.directory path with
      | .error _ => none
      | .ok place =>
        match files.node? place with
        | some (.link target) => some target
        | _ => none
  let written := answers.flatMap fun answer => answer.elim [] line
  .plain files process (if options.has 'n' then written.dropLast else written)
    (if answers.isEmpty || answers.any (·.isNone) then 1 else 0)

def tee : Program := withOptions ['a'] [] 1 fun options files process =>
  let result := forEach files process options.operands fun files path =>
    writeFile files process.directory path (options.has 'a') process.input
  { result with output := process.input, unread := [] }

/-- Whether a file has a property that `test` asks for by a letter; nothing if the letter is
unknown. -/
def testFile (files : FileTree) (directory : Path) (letter : Char) (path : Text) : Option Bool :=
  let node : Option Node := match files.follow directory path with
    | .ok place => files.node? place
    | .error _ => none
  let link : Option Node := match files.locate directory path with
    | .ok place => files.node? place
    | .error _ => none
  match letter with
  | 'e' | 'r' | 'w' => some node.isSome
  | 'f' => some (match node with
    | some (.file _ _) => true
    | _ => false)
  | 'd' => some (node == some .directory)
  | 'h' | 'L' => some (match link with
    | some (.link _) => true
    | _ => false)
  | 'x' => some (match node with
    | some (.file _ mode) => mode &&& 0o111 != 0
    | some .directory => true
    | _ => false)
  | 's' => some (match node with
    | some (.file (.data data) _) => !data.isEmpty
    | some (.file (.program _) _) => true
    | some .directory => true
    | _ => false)
  | 'c' => some (match node with
    | some .nullDevice => true
    | some .zeroDevice => true
    | _ => false)
  | 'b' | 'p' | 'S' | 't' | 'u' | 'g' | 'k' => some false
  | _ => none

def testUnary (files : FileTree) (directory : Path) (operator operand : Text) : Option Bool :=
  match operator with
  | ['-', 'n'] => some (!operand.isEmpty)
  | ['-', 'z'] => some operand.isEmpty
  | ['-', letter] => testFile files directory letter operand
  | _ => none

/-- The answer to an operator with two operands; nothing if there is no such operator or a number is
none. -/
def testBinary (left operator right : Text) : Option Bool :=
  let numbers := fun (holds : Int → Int → Bool) => do
    let m ← readInt (Text.trim left)
    let n ← readInt (Text.trim right)
    return holds m n
  if operator = ['='] ∨ operator = ['=', '='] then some (left = right)
  else if operator = ['!', '='] then some (left ≠ right)
  else if operator = "-eq".toList then numbers (· == ·)
  else if operator = "-ne".toList then numbers (· != ·)
  else if operator = "-lt".toList then numbers (· < ·)
  else if operator = "-le".toList then numbers (· ≤ ·)
  else if operator = "-gt".toList then numbers (· > ·)
  else if operator = "-ge".toList then numbers (· ≥ ·)
  else none

/-- The answer to an expression of up to four arguments, or of parts joined by `-a` and `-o`. -/
def testExpression (files : FileTree) (directory : Path) : Nat → List Text → Option Bool
  | 0, _ => none
  | _, [] => some false
  | _, [operand] => some (!operand.isEmpty)
  | fuel + 1, args =>
    let split := fun (operator : Text) => args.findIdx? (· == operator)
    match args with
    | [['!'], operand] => some operand.isEmpty
    | [operator, operand] => testUnary files directory operator operand
    | [left, operator, right] =>
      match testBinary left operator right with
      | some answer => some answer
      | none =>
        if operator = ['-', 'a'] then some (!left.isEmpty && !right.isEmpty)
        else if operator = ['-', 'o'] then some (!left.isEmpty || !right.isEmpty)
        else if left = ['!'] then (testUnary files directory operator right).map not
        else if left = ['('] ∧ right = [')'] then some (!operator.isEmpty)
        else none
    | _ =>
      match split ['-', 'o'], split ['-', 'a'] with
      | some place, _ => do
        let left ← testExpression files directory fuel (args.take place)
        let right ← testExpression files directory fuel (args.drop (place + 1))
        return left || right
      | none, some place => do
        let left ← testExpression files directory fuel (args.take place)
        let right ← testExpression files directory fuel (args.drop (place + 1))
        return left && right
      | none, none =>
        match args with
        | ['!'] :: rest => (testExpression files directory fuel rest).map not
        | _ => none

def testStatus (files : FileTree) (directory : Path) (args : List Text) : Int :=
  match testExpression files directory (args.length + 1) args with
  | some true => 0
  | some false => 1
  | none => 2

def test : Program := fun files process =>
  .plain files process [] (testStatus files process.directory process.args)

def bracket : Program := fun files process =>
  if process.args.getLast? = some [']'] then
    .plain files process [] (testStatus files process.directory process.args.dropLast)
  else .refused files process 2

end ChainShell.Machine
