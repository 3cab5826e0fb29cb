import ChainShell.Proofs.FileTree.Resolution

namespace ChainShell.FileTree

/-- Resolves names one by one, in at most so many steps, and keeps no account of the links that it has
followed: one that leads back to itself is followed again and again. There is no answer if the steps do
not suffice. -/
def resolveAfresh (tree : FileTree) : Nat → Path → List Text → Option (Except ResolveError Path)
  | _, path, [] => some (.ok path)
  | 0, _, _ :: _ => none
  | steps + 1, path, name :: rest =>
    match tree.sign path name with
    | .error e => some (.error e)
    | .ok (.place next) => resolveAfresh tree steps next rest
    | .ok (.link target) =>
      resolveAfresh tree steps (origin path target) (Text.splitOn '/' target ++ rest)

/-- No number of steps suffices. -/
def Endless (tree : FileTree) (path : Path) (names : List Text) : Prop :=
  ∀ steps, tree.resolveAfresh steps path names = none

/-- In so many steps, names come down to other names below another path, whatever stands behind them. -/
def Passes (tree : FileTree) (steps : Nat) (path : Path) (names : List Text) (next : Path)
    (rest : List Text) : Prop :=
  ∀ more behind, tree.resolveAfresh (steps + more) path (names ++ behind) =
    tree.resolveAfresh more next (rest ++ behind)

/-- Names fail with this error, or they are followed without end. -/
def Unresolved (tree : FileTree) (path : Path) (names : List Text) (error : ResolveError) : Prop :=
  (∃ steps, tree.resolveAfresh steps path names = some (.error error)) ∨ tree.Endless path names

/-- These names come up below this path when the link is followed. -/
def Within (tree : FileTree) (path : Path) (names : List Text) (link : Path) : Prop :=
  ∃ directory name target steps behind, link = directory ++ [name] ∧
    tree.sign directory name = .ok (.link target) ∧
    tree.Passes steps (origin directory target) (Text.splitOn '/' target) path (names ++ behind)

variable {tree : FileTree}

section Steps

variable {steps : Nat} {path next : Path} {name target : Text} {names rest : List Text}

theorem resolveAfresh_of_error {error : ResolveError} (seen : tree.sign path name = .error error)
    (steps : Nat) (rest : List Text) :
    tree.resolveAfresh (steps + 1) path (name :: rest) = some (.error error) := by
  rw [resolveAfresh, seen]

theorem resolveAfresh_of_place (seen : tree.sign path name = .ok (.place next)) (steps : Nat)
    (rest : List Text) :
    tree.resolveAfresh (steps + 1) path (name :: rest) = tree.resolveAfresh steps next rest := by
  rw [resolveAfresh, seen]

theorem resolveAfresh_of_link (seen : tree.sign path name = .ok (.link target)) (steps : Nat)
    (rest : List Text) : tree.resolveAfresh (steps + 1) path (name :: rest) =
      tree.resolveAfresh steps (origin path target) (Text.splitOn '/' target ++ rest) := by
  rw [resolveAfresh, seen]

theorem resolveAfresh_add {answer : Except ResolveError Path}
    (answered : tree.resolveAfresh steps path names = some answer) (more : Nat) :
    tree.resolveAfresh (steps + more) path names = some answer := by
  induction steps generalizing path names with
  | zero =>
    cases names with
    | nil => simpa only [resolveAfresh] using answered
    | cons name rest => simp only [resolveAfresh, reduceCtorEq] at answered
  | succ steps ih =>
    cases names with
    | nil => simpa only [resolveAfresh] using answered
    | cons name rest =>
      rw [Nat.add_right_comm]
      rcases seen : tree.sign path name with error | ⟨next | target⟩
      · rw [resolveAfresh_of_error seen] at answered ⊢
        exact answered
      · rw [resolveAfresh_of_place seen] at answered ⊢
        exact ih answered
      · rw [resolveAfresh_of_link seen] at answered ⊢
        exact ih answered

theorem resolveAfresh_unique {steps' : Nat} {answer answer' : Except ResolveError Path}
    (answered : tree.resolveAfresh steps path names = some answer)
    (answered' : tree.resolveAfresh steps' path names = some answer') : answer = answer' := by
  have one := resolveAfresh_add answered steps'
  have other := resolveAfresh_add answered' steps
  rw [Nat.add_comm, other] at one
  exact (Option.some.inj one).symm

/-- What stands behind names that lead nowhere makes no difference, whether they fail or the steps do not
suffice. -/
theorem resolveAfresh_append (stuck : ∀ result, tree.resolveAfresh steps path names ≠ some (.ok result))
    (behind : List Text) :
    tree.resolveAfresh steps path (names ++ behind) = tree.resolveAfresh steps path names := by
  induction steps generalizing path names with
  | zero =>
    cases names with
    | nil => exact absurd rfl (stuck path)
    | cons name rest => rfl
  | succ steps ih =>
    cases names with
    | nil => exact absurd rfl (stuck path)
    | cons name rest =>
      rw [List.cons_append]
      rcases seen : tree.sign path name with error | ⟨next | target⟩
      · rw [resolveAfresh_of_error seen, resolveAfresh_of_error seen]
      · rw [resolveAfresh_of_place seen] at stuck ⊢
        rw [ih stuck, resolveAfresh_of_place seen]
      · rw [resolveAfresh_of_link seen] at stuck ⊢
        rw [← List.append_assoc, ih stuck, resolveAfresh_of_link seen]

theorem Endless.append (without : tree.Endless path names) (behind : List Text) :
    tree.Endless path (names ++ behind) := by
  intro steps
  rw [resolveAfresh_append (by simp [without steps]), without]

namespace Passes

theorem refl (path : Path) (names : List Text) : tree.Passes 0 path names path names := by
  intro more behind
  rw [Nat.zero_add]

theorem trans {steps' : Nat} {last : Path} {final : List Text}
    (first : tree.Passes steps path names next rest) (second : tree.Passes steps' next rest last final) :
    tree.Passes (steps + steps') path names last final := by
  intro more behind
  rw [Nat.add_assoc, first, second]

theorem append (passes : tree.Passes steps path names next rest) (others : List Text) :
    tree.Passes steps path (names ++ others) next (rest ++ others) := by
  intro more behind
  rw [List.append_assoc, List.append_assoc, passes]

theorem place (seen : tree.sign path name = .ok (.place next)) (rest : List Text) :
    tree.Passes 1 path (name :: rest) next rest := by
  intro more behind
  rw [Nat.add_comm, List.cons_append, resolveAfresh_of_place seen]

theorem link (seen : tree.sign path name = .ok (.link target)) (rest : List Text) :
    tree.Passes 1 path (name :: rest) (origin path target) (Text.splitOn '/' target ++ rest) := by
  intro more behind
  rw [Nat.add_comm, List.cons_append, resolveAfresh_of_link seen, List.append_assoc]

theorem resolveAfresh_eq (passes : tree.Passes steps path names next rest) (more : Nat) :
    tree.resolveAfresh (steps + more) path names = tree.resolveAfresh more next rest := by
  simpa only [List.append_nil] using passes more []

theorem endless (passes : tree.Passes steps path names next rest) (without : tree.Endless next rest) :
    tree.Endless path names := by
  intro bound
  rw [Option.eq_none_iff_forall_ne_some]
  intro answer answered
  have later := resolveAfresh_add answered steps
  rw [Nat.add_comm, passes.resolveAfresh_eq, without bound] at later
  cases later

/-- Names that come down to themselves, with others behind them, are followed without end. -/
theorem endless_of_cycle {others : List Text} (nonempty : names ≠ [])
    (passes : tree.Passes (steps + 1) path names path (names ++ others)) : tree.Endless path names := by
  have unanswered (bound : Nat) : ∀ behind, tree.resolveAfresh bound path (names ++ behind) = none := by
    induction bound using Nat.strongRecOn with
    | ind bound ih =>
      intro behind
      by_cases around : steps + 1 ≤ bound
      · obtain ⟨left, rfl⟩ := Nat.exists_eq_add_of_le around
        rw [passes, List.append_assoc]
        exact ih left (by omega) (others ++ behind)
      · -- an answer in fewer steps would be one in just the steps that come round to the names
        rw [Option.eq_none_iff_forall_ne_some]
        intro answer answered
        have later := resolveAfresh_add answered (steps + 1 - bound)
        have round : bound + (steps + 1 - bound) = steps + 1 + 0 := by omega
        obtain ⟨first, following, rfl⟩ := List.exists_cons_of_ne_nil nonempty
        rw [round, passes] at later
        simp only [List.cons_append, resolveAfresh, reduceCtorEq] at later
  intro bound
  simpa only [List.append_nil] using unanswered bound []

end Passes

namespace Unresolved

variable {error : ResolveError}

theorem of_passes (passes : tree.Passes steps path names next rest)
    (unresolved : tree.Unresolved next rest error) : tree.Unresolved path names error := by
  rcases unresolved with ⟨more, failed⟩ | without
  · exact .inl ⟨steps + more, by rw [passes.resolveAfresh_eq, failed]⟩
  · exact .inr (passes.endless without)

theorem append (unresolved : tree.Unresolved path names error) (behind : List Text) :
    tree.Unresolved path (names ++ behind) error := by
  rcases unresolved with ⟨steps, failed⟩ | without
  · exact .inl ⟨steps, by rw [resolveAfresh_append (by simp [failed]), failed]⟩
  · exact .inr (without.append behind)

theorem of_sign (seen : tree.sign path name = .error error) (rest : List Text) :
    tree.Unresolved path (name :: rest) error :=
  .inl ⟨1, resolveAfresh_of_error seen 0 rest⟩

end Unresolved

namespace Within

variable {link : Path}

theorem step (within : tree.Within path names link) (passes : tree.Passes steps path names next rest) :
    tree.Within next rest link := by
  obtain ⟨directory, name, target, before, behind, same, seen, comes⟩ := within
  exact ⟨directory, name, target, before + steps, behind, same, seen, comes.trans (passes.append behind)⟩

theorem of_append {others : List Text} (within : tree.Within path (names ++ others) link) :
    tree.Within path names link := by
  obtain ⟨directory, name, target, before, behind, same, seen, comes⟩ := within
  exact ⟨directory, name, target, before, others ++ behind, same, seen, List.append_assoc .. ▸ comes⟩

/-- What a link leads by comes up when the link is followed. -/
theorem of_link (seen : tree.sign path name = .ok (.link target)) :
    tree.Within (origin path target) (Text.splitOn '/' target) (path ++ [name]) :=
  ⟨path, name, target, 0, [], rfl, seen, by rw [List.append_nil]; exact .refl _ _⟩

/-- A link that comes up when it is followed is followed without end. -/
theorem endless (seen : tree.sign path name = .ok (.link target))
    (within : tree.Within path (name :: rest) (path ++ [name])) : tree.Endless path (name :: rest) := by
  obtain ⟨directory, name', target', before, behind, same, seen', comes⟩ := within
  obtain ⟨rfl, sameName⟩ := List.append_inj' same rfl
  cases sameName
  rw [seen, Except.ok.injEq, Sign.link.injEq] at seen'
  subst seen'
  have around := comes.trans ((Passes.link seen rest).append behind)
  rw [List.append_assoc] at around
  have without := around.endless_of_cycle (Text.splitOn_ne_nil '/' target)
  exact (Passes.link seen rest).endless (without.append rest)

end Within

end Steps

/-- Names that lead somewhere come down to the path they lead to. -/
theorem LeadsIn.passes {steps : Nat} {path result : Path} {names : List Text}
    (leads : LeadsIn tree steps path names result) : tree.Passes steps path names result [] := by
  induction leads with
  | here => exact .refl _ _
  | @place steps path name rest next result seen _ ih =>
    have first := (Passes.place seen rest).trans ih
    rwa [Nat.add_comm] at first
  | @link aside steps path name rest target resolved result seen _ _ ihAside ih =>
    have first := ((Passes.link seen rest).trans (ihAside.append rest)).trans ih
    have count : 1 + aside + steps = aside + steps + 1 := by omega
    rwa [count] at first

theorem Leads.exists_resolveAfresh {path result : Path} {names : List Text}
    (leads : tree.Leads path names result) :
    ∃ steps, tree.resolveAfresh steps path names = some (.ok result) := by
  obtain ⟨steps, further⟩ := leads
  exact ⟨steps, further.passes.resolveAfresh_eq 0⟩

theorem mem_of_sign {path : Path} {name target : Text} (seen : tree.sign path name = .ok (.link target)) :
    (path ++ [name], .link target) ∈ tree.entries := by
  rw [sign] at seen
  split at seen
  · cases seen
  · split at seen
    · cases seen
    · split at seen
      · cases seen
      · split at seen
        · cases seen
        · rename_i found
          cases seen
          exact mem_of_lstat found
        · cases seen

/-- A resolution that fails says where the names fail, or the names are followed without end. The links that
are being resolved are those in which the names come up, so that one of them that is met comes up in itself. -/
theorem unresolved_of_resolveFrom {active : List Path} {cache : LinkCache} {path : Path} {names : List Text}
    {error : ResolveError} (remembered : tree.Remembers cache)
    (within : ∀ link ∈ active, tree.Within path names link)
    (failed : tree.resolveFrom active cache path names = .error error) :
    tree.Unresolved path names error := by
  -- inside a link there are fewer links that are not being resolved; behind a name there are fewer names
  induction size : tree.inactive active using Nat.strongRecOn generalizing active cache path names error with
  | ind size inside =>
    induction names generalizing cache path error with
    | nil =>
      rw [resolveFrom] at failed
      cases failed
    | cons name rest behind =>
      have after {steps : Nat} {next : Path} (passes : tree.Passes steps path (name :: rest) next rest) :
          ∀ link ∈ active, tree.Within next rest link := fun link member => (within link member).step passes
      rw [resolveFrom_cons] at failed
      rcases seen : tree.sign path name with stuck | ⟨next | target⟩
      · rw [seen] at failed
        cases failed
        exact .of_sign seen rest
      · rw [seen] at failed
        have further := Passes.place seen rest
        exact .of_passes further (behind remembered (after further) failed)
      · simp only [seen] at failed
        have into := Passes.link seen rest
        cases known : cache.lookup (path ++ [name]) with
        | some resolved =>
          simp only [known] at failed
          obtain ⟨_, _, rfl, -⟩ := List.lookup_eq_some_iff.1 known
          obtain ⟨_, linked⟩ := remembered (path ++ [name], resolved) (by simp)
          obtain ⟨_, aside⟩ := linked.leads seen
          have further := into.trans (aside.passes.append rest)
          exact .of_passes further (behind remembered (after further) failed)
        | none =>
          simp only [known] at failed
          split at failed
          · rename_i met
            exact .inr ((within _ (List.contains_iff_mem.1 met)).endless seen)
          · rename_i fresh
            have fewer := inactive_cons_lt (mem_of_sign seen) (by simpa using fresh)
            have comesUp : ∀ link ∈ (path ++ [name]) :: active,
                tree.Within (origin path target) (Text.splitOn '/' target) link :=
              List.forall_mem_cons.2
                ⟨.of_link seen, fun link member => ((within link member).step into).of_append⟩
            split at failed
            · rename_i inner
              cases failed
              exact .of_passes into ((inside _ (size ▸ fewer) remembered comesUp inner rfl).append rest)
            · rename_i resolved learnt inner
              obtain ⟨⟨steps, aside⟩, knows⟩ := leads_of_resolveFrom remembered inner
              have remembersLink : tree.Remembers ((path ++ [name], resolved) :: learnt) :=
                List.forall_mem_cons.2 ⟨⟨steps, path, name, target, rfl, seen, aside⟩, knows⟩
              have further := into.trans (aside.passes.append rest)
              exact .of_passes further (behind remembersLink (after further) failed)

section Resolve

variable {names : List Text}

theorem unresolved_of_resolve {error : ResolveError} (failed : tree.resolve names = .error error) :
    tree.Unresolved [] names error := by
  have nothing : tree.Remembers [] := by simp [Remembers]
  rw [resolve] at failed
  split at failed
  · rename_i walked
    cases failed
    exact unresolved_of_resolveFrom nothing (by simp) walked
  · cases failed

/-- Resolution finds the answer that there is without a memory. -/
theorem resolve_of_resolveAfresh {steps : Nat} {answer : Except ResolveError Path}
    (answered : tree.resolveAfresh steps [] names = some answer) : tree.resolve names = answer := by
  cases resolved : tree.resolve names with
  | ok path =>
    obtain ⟨_, found⟩ := (resolve_eq_ok_iff.1 resolved).exists_resolveAfresh
    exact resolveAfresh_unique found answered
  | error error =>
    rcases unresolved_of_resolve resolved with ⟨_, failed⟩ | without
    · exact resolveAfresh_unique failed answered
    · rw [without steps] at answered
      cases answered

theorem exists_resolve_eq_error (without : tree.Endless [] names) :
    ∃ error, tree.resolve names = .error error := by
  cases resolved : tree.resolve names with
  | error error => exact ⟨error, rfl⟩
  | ok path =>
    obtain ⟨steps, found⟩ := (resolve_eq_ok_iff.1 resolved).exists_resolveAfresh
    rw [without steps] at found
    cases found

end Resolve

end ChainShell.FileTree
