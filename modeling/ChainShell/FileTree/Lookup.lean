import ChainShell.FileTree

namespace ChainShell.FileTree

/-- The most links followed for one path. -/
def linkLimit : Nat := 40

/-- The steps of a path: its names, and one more at the end of a path that ends in a slash, because
what stands there has to be a directory. -/
def steps (path : Text) : List Text :=
  let names := (Text.splitOn '/' path).filter (!·.isEmpty)
  if path.getLast? = some '/' then names ++ [['.']] else names

/-- Where a path starts: at the root, or in the given directory. -/
def origin (directory : Path) (path : Text) : Path :=
  if path.head? = some '/' then [] else directory

/-- Follows a path as the system does for a program, through so many links at most and with every name
but the last in a directory. -/
def walk (tree : FileTree) (links : Nat) (current : Path) (rest : List Text) : Except Errno Path :=
  match rest with
  | [] => if (tree.node? current).isSome then .ok current else .error .noEntry
  | name :: rest =>
    match tree.node? current with
    | none => .error .noEntry
    | some .directory =>
      if name = ['.'] then walk tree links current rest
      else if name = ['.', '.'] then walk tree links current.dropLast rest
      else if nameLimit < byteLength name then .error .nameTooLong
      else
        match tree.node? (current ++ [name]) with
        | none => .error .noEntry
        | some (.link target) =>
          match links with
          | 0 => .error .tooManyLinks
          | links + 1 => walk tree links (origin current target) (steps target ++ rest)
        | some _ => walk tree links (current ++ [name]) rest
    | some .barred => .error .permission
    | some _ => .error .notDirectory
termination_by (links, rest.length)

/-- The canonical path that a path leads to. -/
def follow (tree : FileTree) (directory : Path) (path : Text) : Except Errno Path :=
  if path.isEmpty then .error .noEntry
  else if pathLimit < byteLength path then .error .nameTooLong
  else walk tree linkLimit (origin directory path) (steps path)

/-- The directory and the name that a path ends in, the last link not followed. -/
def locate (tree : FileTree) (directory : Path) (path : Text) : Except Errno Path :=
  if path.isEmpty then .error .noEntry
  else if pathLimit < byteLength path then .error .nameTooLong
  else
    let names := (Text.splitOn '/' path).filter (!·.isEmpty)
    match names.getLast? with
    | none => .ok []
    | some name => do
      let parent ← walk tree linkLimit (origin directory path) (names.dropLast ++ [['.']])
      if name = ['.'] then return parent
      else if name = ['.', '.'] then return parent.dropLast
      else if nameLimit < byteLength name then throw .nameTooLong
      else return parent ++ [name]

end ChainShell.FileTree
