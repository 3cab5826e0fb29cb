import ChainShell.Errno
import ChainShell.Machine.Files
import ChainShell.Machine.Script.Arithmetic
import ChainShell.Machine.Script.Parser

namespace ChainShell.Machine.Script

abbrev Launch := FileTree → Text → Process → Except Errno Result

/-- Where output goes: to the output of the script, nowhere, or to the end of a file. -/
inductive Drain where
  | output
  | nowhere
  | file (path : Text)
  deriving DecidableEq, Repr

/-- What a command asks of the loop around it. -/
inductive Jump where
  | leave
  | next
  deriving DecidableEq, Repr

/-- The state of a script. Once it has halted, by `exit` with a status or by a signal with a negative
one, or does not end, nothing more happens; while it jumps, nothing happens up to the loop around.
`exported` are the names of the variables that other programs see, and `captured` is the status of
the last command whose output became part of a word. -/
structure State where
  files : FileTree
  directory : Path
  exported : List Text
  bindings : List (Text × Text)
  name : Text
  params : List Text
  input : Bytes
  drain : Drain
  output : Bytes
  status : Int
  captured : Option Int
  jump : Option Jump
  halted : Option Int
  elapsed : Nat
  endless : Bool

/-- What a script runs in: how programs are started, and when it is stopped. -/
structure Setting where
  launch : Launch
  deadline : Option Nat

/-- The number of the process that runs a script. -/
def processNumber : Text := "4242".toList

namespace State

def emit (state : State) (data : Bytes) : State :=
  match state.drain with
  | .output => { state with output := state.output ++ data }
  | .nowhere => state
  | .file path =>
    match writeFile state.files state.directory path true data with
    | some files => { state with files := files }
    | none => state

/-- Comes to the end of a jump. -/
def land (state : State) : State :=
  { state with jump := none }

def finish (state : State) (status : Int) : State :=
  { state with status := status }

def valueOf? (state : State) (name : Text) : Option Text :=
  state.bindings.lookup name

def assign (state : State) (name value : Text) : State :=
  { state with bindings := (name, value) :: state.bindings.filter (·.1 != name) }

def isOver (setting : Setting) (state : State) : Bool :=
  state.jump.isSome || state.halted.isSome || state.endless || setting.deadline.any (· ≤ state.elapsed)

/-- The value of a parameter that is one text. -/
def parameter? (state : State) (name : Text) : Option Text :=
  match name with
  | ['?'] => some (Numeral.ofInt state.status)
  | ['#'] => some (Numeral.ofNat state.params.length)
  | ['$'] => some processNumber
  | ['!'] => none
  | ['-'] => some []
  | ['0'] => some state.name
  | _ =>
    match readNat name with
    | some place => state.params[place - 1]?
    | none => state.valueOf? name

def process (state : State) (args : List Text) : Process :=
  ⟨args, state.directory, state.input, state.bindings.filter (state.exported.contains ·.1)⟩

/-- Goes on after another program has run; a signal that ended it makes the status 128 and more. -/
def resume (state : State) (result : Result) : State :=
  let state := { state with files := result.files, input := result.unread }
  let state := state.emit result.output
  match result.elapsed with
  | none => { state with endless := true }
  | some elapsed =>
    { state with
      elapsed := state.elapsed + elapsed
      status := if result.status < 0 then 128 - result.status else result.status }

end State

/-- A step of building words: a character, a place where a word may be cut, or a sign that there is a
word even if it has no characters. -/
inductive Glyph where
  | char (c : Char)
  | gap
  | keep
  deriving DecidableEq, Repr

/-- A character that cuts a word that is not quoted. -/
def isCut (c : Char) : Bool :=
  c == ' ' || c == '\t' || c == '\n'

def glyphs (quoted : Bool) (text : Text) : List Glyph :=
  if quoted then .keep :: text.map .char
  else text.map fun c => if isCut c then .gap else .char c

def collect (all : List Glyph) : List Text :=
  let (words, current) := all.foldl (fun (words, current) glyph =>
    match glyph, current with
    | .char c, none => (words, some [c])
    | .char c, some word => (words, some (c :: word))
    | .keep, none => (words, some [])
    | .keep, some word => (words, some word)
    | .gap, none => (words, none)
    | .gap, some word => (word.reverse :: words, none)) (([] : List Text), (none : Option (List Char)))
  words.reverse ++ (current.map List.reverse).toList

/-- The parameters as glyphs: quoted, each is a word of its own for `@`, and all are one word for
`*`. -/
def paramGlyphs (state : State) (name : Char) (quoted : Bool) : List Glyph :=
  if name = '*' && quoted then glyphs true (Text.join [' '] state.params)
  else [Glyph.gap].intercalate (state.params.map (glyphs quoted))

def signals : List (Text × Nat) :=
  [("HUP", 1), ("INT", 2), ("QUIT", 3), ("ABRT", 6), ("KILL", 9), ("USR1", 10), ("SEGV", 11),
    ("USR2", 12), ("PIPE", 13), ("ALRM", 14), ("TERM", 15)].map fun (name, number) =>
    (name.toList, number)

/-- The signal that `kill` is asked to send, and the processes. -/
def readKill (args : List Text) : Option (Nat × List Text) :=
  let signal := fun (text : Text) =>
    match readNat text with
    | some number => some number
    | none => signals.lookup (if "SIG".toList.isPrefixOf text then text.drop 3 else text)
  match args with
  | ['-', 's'] :: name :: rest => (signal name).map (·, rest)
  | ('-' :: name) :: rest => (signal name).map (·, rest)
  | rest => some (15, rest)

def echoEscapes : Escapes := ⟨true, false, true, true⟩

/-- The script's own `echo`, which knows escapes without being asked to. -/
def runEcho (state : State) (args : List Text) : State :=
  let silent := args.head? == some ['-', 'n']
  let (data, stopped) := echoEscapes.expand (Text.join [' '] (if silent then args.drop 1 else args))
  (state.emit (if silent || stopped then data else data ++ [10])).finish 0

def runPrintf (state : State) : List Text → State
  | [] => state.finish 2
  | format :: operands =>
    let (data, status) :=
      printFormat ⟨false, false, true, false⟩ ⟨true, false, true, true⟩ format operands
    (state.emit data).finish status

/-- Cuts a line into the values of variables, the last of which takes the rest. -/
def splitForRead : Nat → Text → List Text
  | 0, _ => []
  | 1, text => [Text.dropEndWhile isCut (text.dropWhile isCut)]
  | count + 1, text =>
    let text := text.dropWhile isCut
    let word := text.takeWhile (!isCut ·)
    word :: splitForRead count (text.drop word.length)

def runRead (state : State) (args : List Text) : State :=
  let names := args.filter (·.head? != some '-')
  let data := state.input.takeWhile (· != 10)
  let finished := data.length < state.input.length
  let values := splitForRead names.length (textOf data)
  let state := { state with input := state.input.drop (data.length + 1) }
  ((names.zip values).foldl (fun state (name, value) => state.assign name value) state).finish
    (if finished then 0 else 1)

/-- Makes variables visible to other programs, with new values if there are any. -/
def runExport (state : State) (args : List Text) : State :=
  (args.foldl (fun state argument =>
    let name := argument.takeWhile (· != '=')
    let state := match argument.drop name.length with
      | _ :: value => state.assign name value
      | [] => state
    { state with exported := name :: state.exported }) state).finish 0

def runCd (state : State) : List Text → State
  | path :: _ =>
    match state.files.follow state.directory path with
    | .error _ => state.finish 2
    | .ok place =>
      if state.files.isDirectory place then { state with directory := place, status := 0 }
      else state.finish 2
  | [] => state.finish 0

/-- Sends a signal; the script is the only process that one can be sent to. -/
def runKill (state : State) (args : List Text) : State :=
  match readKill args with
  | none => state.finish 2
  | some (_, []) => state.finish 2
  | some (signal, targets) =>
    if targets.contains processNumber then
      if signal = 0 then state.finish 0 else { state with halted := some (-(signal : Int)) }
    else state.finish 1

def runExit (state : State) (args : List Text) : State :=
  match args with
  | [] => { state with halted := some state.status }
  | code :: _ =>
    match readNat code with
    | some code => { state with halted := some (code % 256 : Nat) }
    | none => { state with halted := some 2 }

/-- Runs a command that scripts have of their own, if there is one of that name. -/
def runBuiltin? (state : State) (name : Text) (args : List Text) : Option State :=
  let is := fun (names : List String) => names.any fun other => other.toList == name
  if is ["echo"] then some (runEcho state args)
  else if is ["printf"] then some (runPrintf state args)
  else if is [":", "true", "wait", "trap", "umask", "ulimit"] then some (state.finish 0)
  else if is ["export"] then some (runExport state args)
  else if is ["break"] then some { state with jump := some .leave, status := 0 }
  else if is ["continue"] then some { state with jump := some .next, status := 0 }
  else if is ["false"] then some (state.finish 1)
  else if is ["test"] then some (state.finish (testStatus state.files state.directory args))
  else if is ["["] then
    some (state.finish (if args.getLast? = some [']'] then
      testStatus state.files state.directory args.dropLast else 2))
  else if is ["cd"] then some (runCd state args)
  else if is ["pwd"] then some ((state.emit (line (Path.text state.directory))).finish 0)
  else if is ["exit", "return"] then some (runExit state args)
  else if is ["kill"] then some (runKill state args)
  else if is ["read"] then some (runRead state args)
  else if is ["shift"] then
    let count := (args.head?.bind readNat).getD 1
    if state.params.length < count then some { state with halted := some 2 }
    else some { state with params := state.params.drop count, status := 0 }
  else if is ["set"] then
    match args with
    | ['-', '-'] :: rest => some { state with params := rest, status := 0 }
    | ('-' :: _) :: _ => some (state.finish 0)
    | [] => some (state.finish 0)
    | params => some { state with params := params, status := 0 }
  else if is ["unset"] then
    some { state with
      bindings := state.bindings.filter fun entry => !args.contains entry.1
      status := 0 }
  else none

/-- Runs another program. One that is not found gives 127, one that cannot be run 126; a file in no
known format is taken for a script. -/
def runProgram (setting : Setting) (state : State) (name : Text) (args : List Text) : State :=
  match setting.launch state.files name (state.process args) with
  | .ok result => state.resume result
  | .error .execFormat =>
    match setting.launch state.files "/bin/sh".toList (state.process (name :: args)) with
    | .ok result => state.resume result
    | .error _ => state.finish 126
  | .error .noEntry => state.finish 127
  | .error .notDirectory => state.finish 127
  | .error .tooManyLinks => state.finish 127
  | .error _ => state.finish 126

/-- Comes back from a script that ran apart: files, time and signals stay, an exit does not. -/
def rejoin (outer inner : State) : State :=
  let killed := inner.halted.filter (· < 0)
  { outer with
    files := inner.files
    status := inner.halted.getD inner.status
    captured := none
    halted := killed
    elapsed := inner.elapsed
    endless := inner.endless }

inductive Task where
  | script (script : Script)
  | loop (condition : Script) (goal : Bool) (body : Script)
  | each (name : Text) (values : List Text) (body : Script)
  | redirects (redirects : List Redirect)
  | command (words : List Text)
  | source (source : Text)

abbrev Expanded := State × List Glyph

/-- Runs the output of a script into a text, without the line feeds at its end. -/
def capture (run : State → State) (state : State) : State × Text :=
  let inner := run { state with drain := .output, output := [] }
  let rejoined := rejoin state inner
  ({ rejoined with status := state.status, captured := some rejoined.status },
    Text.dropEndWhile (· == '\n') (textOf inner.output))

/-- The glyphs of one fragment; `run` runs the source of a script. -/
def expandFragment (run : Text → State → State) (state : State) : Fragment → Expanded
  | .literal text quoted =>
    (state, if quoted then glyphs true text else text.map .char)
  | .parameter ['@'] quoted => (state, paramGlyphs state '@' quoted)
  | .parameter ['*'] quoted => (state, paramGlyphs state '*' quoted)
  | .parameter name quoted => (state, glyphs quoted ((state.parameter? name).getD []))
  | .parameterOr name evenIfEmpty alternative quoted =>
    match state.parameter? name with
    | some value =>
      (state, glyphs quoted (if evenIfEmpty && value.isEmpty then alternative else value))
    | none => (state, glyphs quoted alternative)
  | .parameterLength name =>
    (state, glyphs true (Numeral.ofNat ((state.parameter? name).getD []).length))
  | .output source quoted =>
    let (state, text) := capture (run source) state
    (state, glyphs quoted text)
  | .arithmetic source =>
    match Arithmetic.value? (fun name => (state.parameter? name).getD []) source with
    | some value => (state, glyphs true (Numeral.ofInt value))
    | none => ({ state with halted := some 2 }, [])

def expandWord (run : Text → State → State) (state : State) : Word → Expanded
  | [] => (state, [])
  | fragment :: rest =>
    let (state, first) := expandFragment run state fragment
    let (state, more) := expandWord run state rest
    (state, first ++ more)

def expandWords (run : Text → State → State) (state : State) : List Word → State × List Text
  | [] => (state, [])
  | word :: rest =>
    let (state, glyphs) := expandWord run state word
    let (state, more) := expandWords run state rest
    (state, collect glyphs ++ more)

/-- The text of a word that is not cut. -/
def expandWhole (run : Text → State → State) (state : State) (word : Word) : State × Text :=
  let (state, glyphs) := expandWord run state word
  (state, glyphs.filterMap fun
    | .char c => some c
    | .gap => some ' '
    | .keep => none)

def runAssignments (run : Text → State → State) (state : State) : List (Text × Word) → State
  | [] => state
  | (name, word) :: rest =>
    let (state, value) := expandWhole run state word
    runAssignments run (state.assign name value) rest

/-- Changes where a command reads and writes; nothing if that cannot be done. -/
def redirectState (state : State) (redirect : Redirect) (target : Text) : Option State :=
  match redirect with
  | .read 0 _ =>
    match readFile state.files state.directory target with
    | .data data => some { state with input := data }
    | .zeros => some { state with input := [] }
    | .directory => some { state with input := [] }
    | .failed => none
  | .read _ _ => some state
  | .write stream append _ =>
    match writeFile state.files state.directory target append [] with
    | none => none
    | some files =>
      some { state with
        files := files
        drain := if stream = 1 then .file target else state.drain }
  | .copy 0 _ => some (if target = ['-'] then { state with input := [] } else state)
  | .copy 1 _ => some (if target = ['1'] then state else { state with drain := .nowhere })
  | .copy _ _ => some state

def runRedirects (run : Text → State → State) (state : State) : List Redirect → State × Bool
  | [] => (state, true)
  | redirect :: rest =>
    let (state, target) := expandWhole run state redirect.target
    match redirectState state redirect target with
    | none => (state, false)
    | some state => runRedirects run state rest

/-- Comes back to where the script read and wrote before. -/
def restore (before after : State) (keepInput : Bool) : State :=
  { after with
    drain := before.drain
    input := if keepInput then before.input else after.input }

def redirectsInput (redirects : List Redirect) : Bool :=
  redirects.any fun
    | .read 0 _ => true
    | .copy 0 _ => true
    | _ => false

def run (setting : Setting) : Nat → Task → State → State
  | 0, _, state => { state with endless := true }
  | fuel + 1, task, state =>
    let runSource := fun (source : Text) (state : State) => run setting fuel (.source source) state
    if state.isOver setting then state
    else
      match task with
      | .source source =>
        match ofText? source with
        | some script => run setting fuel (.script script) state
        | none => { state with halted := some 2 }
      | .command [] => state
      | .command (name :: args) =>
        if name = "exec".toList then
          match args with
          | [] => state.finish 0
          | name :: args =>
            let state := runProgram setting state name args
            { state with halted := state.halted.or (some state.status) }
        else if name = "eval".toList then
          run setting fuel (.source (Text.join [' '] args)) (state.finish 0)
        else
          match runBuiltin? state name args with
          | some state => state
          | none => runProgram setting state name args
      | .redirects redirects => (runRedirects runSource state redirects).1
      | .loop condition goal body =>
        let state := run setting fuel (.script condition) state
        if state.isOver setting then state.land
        else if (state.status = 0) = goal then
          let state := run setting fuel (.script body) state
          if state.jump = some .leave then state.land
          else run setting fuel (.loop condition goal body) state.land
        else state.finish 0
      | .each _ [] _ => state
      | .each name (value :: values) body =>
        let state := run setting fuel (.script body) (state.assign name value)
        if state.jump = some .leave then state.land
        else run setting fuel (.each name values body) state.land
      | .script script =>
        match script with
        | .nothing => state
        | .sequence first second =>
          run setting fuel (.script second) (run setting fuel (.script first) state)
        | .andThen first second =>
          let state := run setting fuel (.script first) state
          if state.status = 0 then run setting fuel (.script second) state else state
        | .orElse first second =>
          let state := run setting fuel (.script first) state
          if state.status = 0 then state else run setting fuel (.script second) state
        | .negation body =>
          let state := run setting fuel (.script body) state
          state.finish (if state.status = 0 then 1 else 0)
        | .pipe first second =>
          let left := run setting fuel (.script first) { state with drain := .output, output := [] }
          let middle := rejoin state left
          if middle.isOver setting then middle
          else
            let right := run setting fuel (.script second) { middle with input := left.output }
            { rejoin middle right with output := right.output, input := left.input }
        | .choice condition yes no =>
          let state := run setting fuel (.script condition) state
          if state.status = 0 then run setting fuel (.script yes) state
          else run setting fuel (.script no) (state.finish 0)
        | .loop condition goal body => run setting fuel (.loop condition goal body) state
        | .each name words body =>
          let (state, values) := match words with
            | some words => expandWords runSource state words
            | none => (state, state.params)
          run setting fuel (.each name values body) (state.finish 0)
        | .subshell body =>
          let inner := run setting fuel (.script body) state
          { rejoin state inner with output := inner.output, input := inner.input }
        | .redirected body redirects =>
          let (inner, opened) := runRedirects runSource state redirects
          if opened then
            restore state (run setting fuel (.script body) inner) (redirectsInput redirects)
          else restore state (inner.finish 2) true
        | .simple assignments words redirects =>
          let (state, texts) := expandWords runSource state words
          let (inner, opened) := runRedirects runSource state redirects
          if !opened then restore state (inner.finish 2) true
          else if texts.isEmpty then
            let assigned := runAssignments runSource { inner with captured := none } assignments
            restore state (assigned.finish (assigned.captured.getD 0)) (redirectsInput redirects)
          else
            let assigned := runAssignments runSource inner assignments
            let names := assignments.map (·.1)
            let after := run setting fuel (.command texts)
              { assigned with exported := names ++ assigned.exported }
            let after := if names.isEmpty then after
              else { after with bindings := inner.bindings, exported := inner.exported }
            if texts == ["exec".toList] then after
            else restore state after (redirectsInput redirects)

/-- The most steps that a script takes; one that runs out of them does not end. -/
def fuelLimit : Nat := 1000000

def runText (setting : Setting) (files : FileTree) (name : Text) (params : List Text)
    (process : Process) (source : Text) : Result :=
  let state : State := {
    files := files
    directory := process.directory
    exported := process.environment.map (·.1)
    bindings := process.environment
    name := name
    params := params
    input := process.input
    drain := .output
    output := []
    status := 0
    captured := none
    jump := none
    halted := none
    elapsed := startTime
    endless := false }
  let final := run setting fuelLimit (.source source) state
  { files := final.files
    output := final.output
    status := final.halted.getD final.status
    unread := final.input
    elapsed := if final.endless then none else some final.elapsed }

end ChainShell.Machine.Script
