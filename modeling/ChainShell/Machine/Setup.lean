import ChainShell.Machine.Files

namespace ChainShell.Machine

/-- Something to be put into a directory, under a path relative to it; the directories above it are
made. -/
inductive Placement where
  | directory (path : Text)
  | file (path : Text) (data : Bytes) (mode : Nat)
  | link (path target : Text)
  deriving DecidableEq, Repr

/-- Makes a directory and those above it, as far as they are missing. -/
def makeDirectories (files : FileTree) (directory : Path) (path : Text) : FileTree :=
  (beginnings path).foldl (fun files path => (makeDirectory files directory path).getD files) files

def makeParents (files : FileTree) (directory : Path) (path : Text) : FileTree :=
  if path.contains '/' then makeDirectories files directory (directoryName path) else files

def setMode (files : FileTree) (directory : Path) (path : Text) (mode : Nat) : FileTree :=
  match files.follow directory path with
  | .error _ => files
  | .ok place =>
    match files.node? place with
    | some (.file content _) => files.insert place (.file content mode)
    | _ => files

def place (directory : Path) (files : FileTree) : Placement → FileTree
  | .directory path => makeDirectories files directory path
  | .file path data mode =>
    let files := makeParents files directory path
    match writeFile files directory path false data with
    | none => files
    | some files => setMode files directory path mode
  | .link path target =>
    let files := makeParents files directory path
    match files.locate directory path with
    | .error _ => files
    | .ok goal => if (files.node? goal).isSome then files else files.insert goal (.link target)

/-- Fills a directory of a tree before a run. -/
def fill (directory : Path) (files : FileTree) (placements : List Placement) : FileTree :=
  placements.foldl (place directory) files

end ChainShell.Machine
