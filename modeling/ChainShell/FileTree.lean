import ChainShell.Errno
import ChainShell.Text.Utf8

namespace ChainShell

/-- A canonical path: the names from the root down. -/
abbrev Path := List Text

/-- The text of a path: a slash before every name, and a single slash for the root. -/
def Path.text : Path → Text
  | [] => ['/']
  | names => names.flatMap ('/' :: ·)

/-- What a file holds: data, or a program of the machine. -/
inductive Content where
  | data (bytes : Bytes)
  | program (name : Text)
  deriving DecidableEq, Repr

/-- What stands at a path. A barred directory is one that the user may not search: enter it, or look
names up in it. A superuser has none. -/
inductive Node where
  | directory
  | barred
  | file (content : Content) (mode : Nat)
  | link (target : Text)
  | nullDevice
  | zeroDevice
  deriving DecidableEq, Repr

/-- A tree of files as a finite table from canonical paths to nodes. The root is always a directory and
has no entry of its own. -/
structure FileTree where
  entries : List (Path × Node)
  deriving DecidableEq, Repr

namespace FileTree

/-- The longest name, in bytes. -/
def nameLimit : Nat := 255

/-- The longest path that may be asked for, in bytes. -/
def pathLimit : Nat := 4095

def byteLength (text : Text) : Nat :=
  (Utf8.encode text).length

def node? (tree : FileTree) (path : Path) : Option Node :=
  if path = [] then some .directory else tree.entries.lookup path

/-- Looks a name up in a directory that is given by its canonical path. -/
def lstat (tree : FileTree) (directory : Path) (name : Text) : Except Errno Node :=
  if pathLimit < byteLength (Path.text (directory ++ [name])) then .error .nameTooLong
  else
    match tree.node? directory with
    | none => .error .noEntry
    | some .directory =>
      if nameLimit < byteLength name then .error .nameTooLong
      else
        match tree.entries.lookup (directory ++ [name]) with
        | none => .error .noEntry
        | some node => .ok node
    | some .barred => .error .permission
    | some _ => .error .notDirectory

def isDirectory (tree : FileTree) (path : Path) : Bool :=
  match tree.node? path with
  | some .directory | some .barred => true
  | _ => false

/-- Whether a canonical path is that of a directory that the user may not search. -/
def isBarred (tree : FileTree) (path : Path) : Bool :=
  tree.node? path = some .barred

/-- Puts a node at a path, in the place of what was there. -/
def insert (tree : FileTree) (path : Path) (node : Node) : FileTree :=
  ⟨(path, node) :: tree.entries.filter (·.1 != path)⟩

/-- Removes a path and all below it. -/
def erase (tree : FileTree) (path : Path) : FileTree :=
  ⟨tree.entries.filter fun entry => !path.isPrefixOf entry.1⟩

/-- Moves a path and all below it to another place, over what was there. -/
def rename (tree : FileTree) (source target : Path) : FileTree :=
  ⟨((tree.erase target).entries).map fun entry =>
    if source.isPrefixOf entry.1 then (target ++ entry.1.drop source.length, entry.2) else entry⟩

/-- The names in a directory, in no particular order. -/
def names (tree : FileTree) (directory : Path) : List Text :=
  tree.entries.filterMap fun entry =>
    if entry.1 != [] && entry.1.dropLast == directory then entry.1.getLast? else none

theorem exists_mem_of_lookup {entries : List (Path × Node)} {path : Path} {node : Node}
    (found : entries.lookup path = some node) : (path, node) ∈ entries := by
  obtain ⟨before, after, rfl, _⟩ := List.lookup_eq_some_iff.1 found
  exact List.mem_append_right before List.mem_cons_self

theorem mem_of_lstat {tree : FileTree} {directory : Path} {name : Text} {node : Node}
    (found : tree.lstat directory name = .ok node) : (directory ++ [name], node) ∈ tree.entries := by
  unfold lstat at found
  split at found
  · cases found
  · split at found
    · cases found
    · split at found
      · cases found
      · split at found
        · cases found
        · rename_i present
          cases found
          exact exists_mem_of_lookup present
    · cases found
    · cases found

end FileTree

end ChainShell
