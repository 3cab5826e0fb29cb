import ChainShell.FileTree.Resolve
import ChainShell.Proofs.Text.Pieces

namespace ChainShell

theorem Path.text_head (path : Path) : (text path).head? = some '/' := by
  cases path <;> rfl

theorem Path.text_of_ne_nil {path : Path} (below : path ≠ []) : text path = path.flatMap ('/' :: ·) := by
  rw [text.eq_def]
  split
  · exact absurd rfl below
  · rfl

namespace FileTree

/-- What may name an entry of a directory. -/
def IsName (name : Text) : Prop :=
  name ≠ [] ∧ name ≠ ['.'] ∧ name ≠ ['.', '.'] ∧ '/' ∉ name ∧ '\x00' ∉ name

instance (name : Text) : Decidable (IsName name) :=
  inferInstanceAs (Decidable (_ ∧ _))

/-- Names only, and every one of them that of an entry that is no link, in a directory. What stands at the
end need not be one. -/
structure Canonical (tree : FileTree) (path : Path) : Prop where
  names : ∀ name ∈ path, IsName name
  entries : ∀ front name, front ++ [name] <+: path →
    ∃ node, tree.lstat front name = .ok node ∧ ∀ target, node ≠ .link target

namespace Canonical

variable {tree : FileTree} {path : Path}

theorem root (tree : FileTree) : Canonical tree [] := by
  refine ⟨by simp, fun front name within => ?_⟩
  simp at within

theorem slashFree (canonical : Canonical tree path) : ∀ name ∈ path, '/' ∉ name :=
  fun name inside => (canonical.names name inside).2.2.2.1

theorem child {name : Text} {node : Node} (canonical : Canonical tree path) (isName : IsName name)
    (found : tree.lstat path name = .ok node) (noLink : ∀ target, node ≠ .link target) :
    Canonical tree (path ++ [name]) := by
  refine ⟨?_, fun front other within => ?_⟩
  · exact List.forall_mem_append.2 ⟨canonical.names, List.forall_mem_singleton.2 isName⟩
  · rcases List.prefix_concat_iff.1 within with same | earlier
    · obtain ⟨rfl, sameName⟩ := List.append_inj' same rfl
      cases sameName
      exact ⟨node, found, noLink⟩
    · exact canonical.entries front other earlier

theorem of_prefix {front : Path} (canonical : Canonical tree path) (within : front <+: path) :
    Canonical tree front :=
  ⟨fun name inside => canonical.names name (within.subset inside),
    fun _ _ earlier => canonical.entries _ _ (earlier.trans within)⟩

end Canonical

/-- Resolution goes from canonical paths to canonical paths, the remembered ones included. -/
theorem resolveFrom_canonical {tree : FileTree} {active : List Path} {cache : LinkCache} {path : Path}
    {names : List Text} (slashFree : ∀ name ∈ names, '/' ∉ name) (canonical : tree.Canonical path)
    (remembered : ∀ entry ∈ cache, tree.Canonical entry.2) {result : Path} {later : LinkCache}
    (resolved : tree.resolveFrom active cache path names = .ok (result, later)) :
    tree.Canonical result ∧ ∀ entry ∈ later, tree.Canonical entry.2 := by
  fun_induction resolveFrom tree active cache path names generalizing result later with
  | case1 =>
    cases resolved
    exact ⟨canonical, remembered⟩
  | case2 active cache path name rest skipped ih =>
    exact ih (List.forall_mem_cons.1 slashFree).2 canonical remembered resolved
  | case3 active cache path rest _ ih =>
    exact ih (List.forall_mem_cons.1 slashFree).2 (canonical.of_prefix (List.dropLast_prefix path))
      remembered resolved
  | case4 | case5 | case7 | case8 => cases resolved
  | case6 active cache path name rest _ _ _ target found cached known ih =>
    obtain ⟨before, after, rfl, _⟩ := List.lookup_eq_some_iff.1 known
    have reached := remembered (path ++ [name], cached) (by simp)
    exact ih (List.forall_mem_cons.1 slashFree).2 reached remembered resolved
  | case9 active cache path name rest _ _ _ target found _ _ through grown linked ihLink ih =>
    have start : tree.Canonical (origin path target) := by
      rw [origin]
      split
      · exact .root tree
      · exact canonical
    obtain ⟨reached, known⟩ := ihLink (fun _ member => Text.not_mem_of_mem_splitOn member) start remembered linked
    exact ih (List.forall_mem_cons.1 slashFree).2 reached (List.forall_mem_cons.2 ⟨reached, known⟩)
      resolved
  | case10 active cache path name rest plain dots nullFree node noLink found ih =>
    rw [List.forall_mem_cons] at slashFree
    have isName : IsName name := ⟨fun empty => plain (.inl empty), fun dot => plain (.inr dot), dots,
      slashFree.1, by simpa using nullFree⟩
    exact ih slashFree.2 (canonical.child isName found noLink) remembered resolved

theorem resolve_canonical {tree : FileTree} {names : List Text} {path : Path}
    (slashFree : ∀ name ∈ names, '/' ∉ name) (resolved : tree.resolve names = .ok path) :
    tree.Canonical path := by
  rw [resolve] at resolved
  split at resolved
  · cases resolved
  · rename_i walked
    cases resolved
    exact (resolveFrom_canonical slashFree (.root tree) (by simp) walked).1

theorem not_mem_of_mem_namesFrom {directory : Path} {path : Text}
    (slashFree : ∀ name ∈ directory, '/' ∉ name) : ∀ name ∈ namesFrom directory path, '/' ∉ name := by
  intro name member
  rw [namesFrom] at member
  split at member
  · exact Text.not_mem_of_mem_splitOn member
  · rcases List.mem_append.1 member with above | below
    · exact slashFree name above
    · exact Text.not_mem_of_mem_splitOn below

theorem namesFrom_append {first second : Text} (nonempty : first ≠ []) (directory : Path) :
    namesFrom directory (first ++ '/' :: second) =
      namesFrom directory first ++ Text.splitOn '/' second := by
  have head : (first ++ '/' :: second).head? = first.head? := by
    rw [List.head?_append, List.head?_eq_some_head nonempty]
    rfl
  rw [namesFrom, namesFrom, head, Text.splitOn_append_separator]
  split
  · rfl
  · rw [List.append_assoc]

theorem namesFrom_relative {path : Text} (relative : path.head? ≠ some '/') (directory : Path) :
    namesFrom directory path = directory ++ Text.splitOn '/' path :=
  if_neg relative

theorem resolveFrom_cons_of_entry {tree : FileTree} {active : List Path} {cache : LinkCache} {path : Path}
    {name : Text} {node : Node} (isName : IsName name) (found : tree.lstat path name = .ok node)
    (noLink : ∀ target, node ≠ .link target) (rest : List Text) :
    tree.resolveFrom active cache path (name :: rest) =
      tree.resolveFrom active cache (path ++ [name]) rest := by
  obtain ⟨nonempty, noDot, noDots, _, nullFree⟩ := isName
  have plain : ¬ (name = [] ∨ name = ['.']) := by simp [nonempty, noDot]
  have noNull : ¬ name.contains '\x00' = true := by simpa using nullFree
  rw [resolveFrom, if_neg plain, if_neg noDots, if_neg noNull]
  split
  · rename_i missing
    rw [found] at missing
    cases missing
  · rename_i target linked
    rw [found] at linked
    cases linked
    exact absurd rfl (noLink target)
  · rfl

/-- A canonical path resolves to itself. -/
theorem Canonical.resolveFrom_eq {tree : FileTree} {front rest : Path}
    (canonical : tree.Canonical (front ++ rest)) (active : List Path) (cache : LinkCache) :
    tree.resolveFrom active cache front rest = .ok (front ++ rest, cache) := by
  induction rest generalizing front with
  | nil => rw [resolveFrom, List.append_nil]
  | cons name rest ih =>
    obtain ⟨node, found, noLink⟩ := canonical.entries front name ⟨rest, by simp⟩
    have shifted : front ++ name :: rest = front ++ [name] ++ rest := by simp
    rw [resolveFrom_cons_of_entry (canonical.names name (by simp)) found noLink, shifted]
    exact ih (shifted ▸ canonical)

namespace Canonical

variable {tree : FileTree} {path : Path}

theorem splitOn_text (canonical : Canonical tree path) (below : path ≠ []) :
    Text.splitOn '/' (Path.text path) = [] :: path := by
  have cut := Text.splitOn_append_flatMap (List.not_mem_nil (a := '/')) canonical.slashFree
  rwa [List.nil_append, ← Path.text_of_ne_nil below] at cut

/-- The names of a canonical path are what its text has between slashes. -/
theorem names_text (canonical : Canonical tree path) :
    (Text.splitOn '/' (Path.text path)).filter (!·.isEmpty) = path := by
  by_cases root : path = []
  · rw [root]
    rfl
  · have nonempty : ∀ name ∈ path, (!name.isEmpty) = true := fun name inside => by
      simpa using (canonical.names name inside).1
    rw [canonical.splitOn_text root, List.filter_cons_of_neg (by simp), List.filter_eq_self.2 nonempty]

/-- The text of a canonical path resolves to it from everywhere. -/
theorem resolve_text (canonical : Canonical tree path) (directory : Path) :
    tree.resolve (namesFrom directory (Path.text path)) = .ok path := by
  rw [resolve, namesFrom, if_pos (Path.text_head path)]
  by_cases root : path = []
  · have cut : Text.splitOn '/' (Path.text []) = [[], []] := rfl
    rw [root, cut, resolveFrom, if_pos (.inl rfl), resolveFrom, if_pos (.inl rfl), resolveFrom]
  · rw [canonical.splitOn_text root, resolveFrom, if_pos (.inl rfl)]
    have same : tree.resolveFrom [] [] [] path = .ok (path, []) :=
      resolveFrom_eq (List.nil_append path ▸ canonical) [] []
    rw [same]

end Canonical

end FileTree

end ChainShell
