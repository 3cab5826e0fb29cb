import ChainShell.Host
import ChainShell.Machine.Launch

namespace ChainShell.Machine

def directories : List Path :=
  (["dev", "etc", "home", "mnt", "opt", "proc", "root", "run", "srv", "sys", "tmp", "usr",
    "var"].map fun name => [name.toList]) ++
  (["bin", "lib", "local", "sbin", "share"].map fun name => ["usr".toList, name.toList]) ++
  (["lib", "log", "tmp"].map fun name => ["var".toList, name.toList]) ++
  [["usr".toList, "local".toList, "bin".toList]]

def links : List (Path × Text) :=
  ["bin", "lib", "sbin"].map fun name => ([name.toList], ("usr/" ++ name).toList)

def programMode : Nat := 0o755

/-- A fresh tree: the usual directories, the devices and the programs. -/
def tree : FileTree :=
  ⟨directories.map (·, .directory) ++ links.map (fun (path, target) => (path, .link target)) ++
    [(["dev".toList, "null".toList], .nullDevice), (["dev".toList, "zero".toList], .zeroDevice),
      (["etc".toList, "passwd".toList],
        .file (.data (line "root:x:0:0:root:/root:/bin/bash".toList)) newFileMode)] ++
    programNames.map fun name =>
      (["usr".toList, "bin".toList, name], .file (.program name) programMode)⟩

/-- The variables that children see if nothing is added. -/
def environment : List (Text × Text) :=
  [("PATH", "/usr/bin:/bin"), ("LC_ALL", "C.UTF-8"), ("HOME", "/root")].map fun (name, value) =>
    (name.toList, value.toList)

/-- A path as it is shown: without empty names and without `.`, except that two slashes at the start
are kept. -/
def shownPath (path : Text) : Text :=
  let names := (Text.splitOn '/' path).filter fun name => !name.isEmpty && name != ['.']
  let joined := Text.join ['/'] names
  match path with
  | '/' :: '/' :: '/' :: _ => '/' :: joined
  | '/' :: '/' :: _ => '/' :: '/' :: joined
  | '/' :: _ => '/' :: joined
  | _ => if joined.isEmpty then ['.'] else joined

/-- Whether a request has a NUL where the system takes none. -/
def hasNull (request : Request) : Bool :=
  (request.command.name :: request.directory :: request.command.args).any (·.contains '\x00')

/-- The directory that a request is to be run in. -/
def enter (files : FileTree) (directory : Text) : Except Errno Path := do
  let place ← files.follow [] directory
  if !files.isDirectory place then throw .notDirectory
  else if files.isBarred place then throw .permission
  else return place

/-- How many programs may start others in turn. -/
def depthLimit : Nat := 64

/-- The microseconds after which a child is stopped. -/
def deadline (limit : Binary64) : Nat :=
  match limit with
  | .finite false significand exponent =>
    let (n, d) := Binary64.scale 2 exponent (significand * 1000000) 1
    n / d
  | _ => 0

/-- Whether a child that takes some time outlives a limit. -/
def outlives (elapsed : Option Nat) (limit : Binary64) : Bool :=
  match elapsed with
  | none => true
  | some elapsed => !limit.isPositive || limit.lessThanRatio elapsed 1000000

/-- Runs one child. The directory is entered before the program is looked for. -/
def run (environment : List (Text × Text)) (files : FileTree) (request : Request) :
    FileTree × Completion :=
  if hasNull request then (files, .notStarted .embeddedNull)
  else
    let directory := shownPath request.directory
    match enter files directory with
    | .error errno => (files, .notStarted (.directory errno directory))
    | .ok place =>
      let process : Process :=
        ⟨request.command.args, place, request.input.getD [], environment⟩
      let stop := (request.limit.filter (! ·.exceedsWait)).map deadline
      match launch stop depthLimit files request.command.name process with
      | .error errno => (files, .notStarted (.program errno))
      | .ok result =>
        match request.limit with
        | some limit =>
          if outlives result.elapsed limit then (result.files, .timedOut result.output limit)
          else (result.files, .finished result.output result.status)
        | none => (result.files, .finished result.output result.status)

/-- The machine as a system that sessions run on: its world is a tree of files, and its children are
small programs that run one at a time. -/
def host (environment : List (Text × Text)) : Host FileTree where
  files := id
  run := run environment

end ChainShell.Machine
