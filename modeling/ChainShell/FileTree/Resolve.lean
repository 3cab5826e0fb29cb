import ChainShell.FileTree.Lookup

namespace ChainShell.FileTree

/-- Why a path has no canonical form. -/
inductive ResolveError where
  | system (errno : Errno) (path : Path)
  | loop (path : Path)
  | embeddedNull
  deriving DecidableEq, Repr

def ResolveError.message : ResolveError → Text
  | .system errno path => errno.about (Text.quote (Path.text path))
  | .loop path => "Symlink loop from ".toList ++ Text.quote (Path.text path)
  | .embeddedNull => ChainShell.embeddedNull

/-- Links that have been resolved, with their canonical paths. -/
abbrev LinkCache := List (Path × Path)

/-- What is reported for a link that leads back to itself: what the system says about it. -/
def loopError (tree : FileTree) (link : Path) : ResolveError :=
  match walk tree linkLimit [] link with
  | .error .tooManyLinks => .loop link
  | .error errno => .system errno link
  | .ok _ => .loop link

/-- The entries that are not among the links being resolved. -/
def inactive (tree : FileTree) (active : List Path) : Nat :=
  tree.entries.countP fun entry => !active.contains entry.1

theorem countP_lt_countP {α : Type} {p q : α → Bool} {entries : List α} {x : α}
    (weaker : ∀ y, p y = true → q y = true) (member : x ∈ entries) (holds : q x = true)
    (fails : p x = false) : entries.countP p < entries.countP q := by
  induction entries with
  | nil => cases member
  | cons y rest ih =>
    have tail : rest.countP p ≤ rest.countP q := List.countP_mono_left fun z _ => weaker z
    rw [List.countP_cons, List.countP_cons]
    rcases List.mem_cons.1 member with rfl | later
    · simp only [holds, fails, if_true, Bool.false_eq_true, if_false]
      omega
    · have less := ih later
      cases hp : p y with
      | false => simp only [Bool.false_eq_true, if_false]; omega
      | true => simp only [weaker y hp, if_true]; omega

theorem inactive_cons_lt {tree : FileTree} {active : List Path} {path : Path} {node : Node}
    (present : (path, node) ∈ tree.entries) (fresh : active.contains path = false) :
    tree.inactive (path :: active) < tree.inactive active := by
  refine countP_lt_countP (fun entry free => ?_) present
    (by simpa using fresh) (by simp)
  simp only [List.contains_cons, Bool.not_or, Bool.and_eq_true] at free
  exact free.2

/-- Resolves names one by one below a canonical path. A link is replaced by what its target resolves to,
which is remembered in the cache; `active` are the links being resolved, and one that is met among them
is an error. Unlike in a program's paths, a name may be left again by `..` whatever it names, and no
number of links is too many: it is assumed that links can be nested to any depth, the limit that an
interpreter sets to nested calls being left out. -/
def resolveFrom (tree : FileTree) (active : List Path) (cache : LinkCache) (path : Path)
    (names : List Text) : Except ResolveError (Path × LinkCache) :=
  match names with
  | [] => .ok (path, cache)
  | name :: rest =>
    if name = [] ∨ name = ['.'] then resolveFrom tree active cache path rest
    else if name = ['.', '.'] then resolveFrom tree active cache path.dropLast rest
    else if name.contains '\x00' then .error .embeddedNull
    else
      match _found : tree.lstat path name with
      | .error errno => .error (.system errno (path ++ [name]))
      | .ok (.link target) =>
        match cache.lookup (path ++ [name]) with
        | some resolved => resolveFrom tree active cache resolved rest
        | none =>
          if _fresh : active.contains (path ++ [name]) then
            .error (tree.loopError (path ++ [name]))
          else
            match resolveFrom tree ((path ++ [name]) :: active) cache (origin path target)
                (Text.splitOn '/' target) with
            | .error e => .error e
            | .ok (resolved, cache) =>
              resolveFrom tree active ((path ++ [name], resolved) :: cache) resolved rest
      | .ok _ => resolveFrom tree active cache (path ++ [name]) rest
termination_by (tree.inactive active, names.length)
decreasing_by
  all_goals first
    | (apply Prod.Lex.right; simp only [List.length_cons]; omega)
    | (apply Prod.Lex.left
       exact inactive_cons_lt (mem_of_lstat _found) (by simpa using _fresh))

/-- The canonical path that names lead to from the root. -/
def resolve (tree : FileTree) (names : List Text) : Except ResolveError Path :=
  match resolveFrom tree [] [] [] names with
  | .error e => .error e
  | .ok (path, _) => .ok path

/-- The names of a path that starts in a directory, or at the root if it begins with a slash. -/
def namesFrom (directory : Path) (path : Text) : List Text :=
  if path.head? = some '/' then Text.splitOn '/' path else directory ++ Text.splitOn '/' path

end ChainShell.FileTree
