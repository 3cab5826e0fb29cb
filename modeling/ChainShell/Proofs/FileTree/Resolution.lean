import ChainShell.Proofs.FileTree.Canonical

namespace ChainShell.FileTree

/-- What a name stands for: another path, or a link with its target. -/
inductive Sign where
  | place (path : Path)
  | link (target : Text)

/-- What a name stands for below a canonical path. -/
def sign (tree : FileTree) (path : Path) (name : Text) : Except ResolveError Sign :=
  if name = [] ∨ name = ['.'] then .ok (.place path)
  else if name = ['.', '.'] then .ok (.place path.dropLast)
  else if name.contains '\x00' then .error .embeddedNull
  else
    match tree.lstat path name with
    | .error errno => .error (.system errno (path ++ [name]))
    | .ok (.link target) => .ok (.link target)
    | .ok _ => .ok (.place (path ++ [name]))

/-- Names lead from one path to another in so many steps, those along the targets of links included. A link
leads where its target leads from the directory that it stands in, whatever has been followed before. -/
inductive LeadsIn (tree : FileTree) : Nat → Path → List Text → Path → Prop
  | here {path} : LeadsIn tree 0 path [] path
  | place {steps path name rest next result} : tree.sign path name = .ok (.place next) →
      LeadsIn tree steps next rest result → LeadsIn tree (steps + 1) path (name :: rest) result
  | link {aside steps path name rest target resolved result} : tree.sign path name = .ok (.link target) →
      LeadsIn tree aside (origin path target) (Text.splitOn '/' target) resolved →
      LeadsIn tree steps resolved rest result →
      LeadsIn tree (aside + steps + 1) path (name :: rest) result

/-- Names lead from one path to another. -/
def Leads (tree : FileTree) (path : Path) (names : List Text) (result : Path) : Prop :=
  ∃ steps, LeadsIn tree steps path names result

/-- A path is that of a link whose target leads somewhere in so many steps. -/
def LinkLeadsIn (tree : FileTree) (steps : Nat) (link resolved : Path) : Prop :=
  ∃ directory name target, link = directory ++ [name] ∧ tree.sign directory name = .ok (.link target) ∧
    LeadsIn tree steps (origin directory target) (Text.splitOn '/' target) resolved

/-- What has been remembered of links is where they lead. -/
def Remembers (tree : FileTree) (cache : LinkCache) : Prop :=
  ∀ entry ∈ cache, ∃ steps, LinkLeadsIn tree steps entry.1 entry.2

/-- Every one of these links takes at least so many steps, if it leads anywhere. -/
def Outlast (tree : FileTree) (steps : Nat) (links : List Path) : Prop :=
  ∀ link ∈ links, ∀ more resolved, LinkLeadsIn tree more link resolved → steps ≤ more

variable {tree : FileTree}

theorem Outlast.mono {steps fewer : Nat} {links : List Path} (outer : tree.Outlast steps links)
    (bound : fewer ≤ steps) : tree.Outlast fewer links :=
  fun link member more resolved linked => Nat.le_trans bound (outer link member more resolved linked)

/-- Names lead to one path at most, in one number of steps. -/
theorem LeadsIn.unique {steps steps' : Nat} {path result result' : Path} {names : List Text}
    (leads : LeadsIn tree steps path names result) (leads' : LeadsIn tree steps' path names result') :
    steps = steps' ∧ result = result' := by
  induction leads generalizing steps' result' with
  | here =>
    cases leads'
    exact ⟨rfl, rfl⟩
  | place seen _ ih =>
    cases leads' with
    | place seen' further =>
      rw [seen, Except.ok.injEq, Sign.place.injEq] at seen'
      obtain ⟨rfl, same⟩ := ih (seen' ▸ further)
      exact ⟨rfl, same⟩
    | link seen' =>
      rw [seen] at seen'
      cases seen'
  | link seen _ _ ihAside ih =>
    cases leads' with
    | place seen' =>
      rw [seen] at seen'
      cases seen'
    | link seen' aside' further =>
      rw [seen, Except.ok.injEq, Sign.link.injEq] at seen'
      obtain ⟨rfl, resolved⟩ := ihAside (seen' ▸ aside')
      obtain ⟨rfl, same⟩ := ih (resolved ▸ further)
      exact ⟨rfl, same⟩

theorem LinkLeadsIn.leads {steps : Nat} {directory resolved : Path} {name target : Text}
    (leads : LinkLeadsIn tree steps (directory ++ [name]) resolved)
    (seen : tree.sign directory name = .ok (.link target)) :
    tree.Leads (origin directory target) (Text.splitOn '/' target) resolved := by
  obtain ⟨directory', name', target', same, seen', further⟩ := leads
  obtain ⟨rfl, sameName⟩ := List.append_inj' same rfl
  cases sameName
  rw [seen, Except.ok.injEq, Sign.link.injEq] at seen'
  exact ⟨steps, seen' ▸ further⟩

theorem LinkLeadsIn.unique {steps steps' : Nat} {link resolved resolved' : Path}
    (leads : LinkLeadsIn tree steps link resolved) (leads' : LinkLeadsIn tree steps' link resolved') :
    steps = steps' ∧ resolved = resolved' := by
  obtain ⟨directory, name, target, rfl, seen, further⟩ := leads
  obtain ⟨directory', name', target', same, seen', further'⟩ := leads'
  obtain ⟨rfl, sameName⟩ := List.append_inj' same rfl
  cases sameName
  rw [seen, Except.ok.injEq, Sign.link.injEq] at seen'
  exact further.unique (seen' ▸ further')

theorem Leads.unique {path result result' : Path} {names : List Text}
    (leads : tree.Leads path names result) (leads' : tree.Leads path names result') : result = result' := by
  obtain ⟨_, one⟩ := leads
  obtain ⟨_, other⟩ := leads'
  exact (one.unique other).2

namespace Leads

theorem here (path : Path) : tree.Leads path [] path :=
  ⟨0, .here⟩

theorem place {path next result : Path} {name : Text} {rest : List Text}
    (seen : tree.sign path name = .ok (.place next)) (leads : tree.Leads next rest result) :
    tree.Leads path (name :: rest) result := by
  obtain ⟨_, further⟩ := leads
  exact ⟨_, .place seen further⟩

theorem link {path resolved result : Path} {name target : Text} {rest : List Text}
    (seen : tree.sign path name = .ok (.link target)) (leads : tree.Leads resolved rest result)
    (aside : tree.Leads (origin path target) (Text.splitOn '/' target) resolved) :
    tree.Leads path (name :: rest) result := by
  obtain ⟨_, further⟩ := leads
  obtain ⟨_, there⟩ := aside
  exact ⟨_, .link seen there further⟩

end Leads

/-- Names behind others go on from where these lead. -/
theorem leads_append_iff {path result : Path} {names more : List Text} :
    tree.Leads path (names ++ more) result ↔
      ∃ middle, tree.Leads path names middle ∧ tree.Leads middle more result := by
  constructor
  · rintro ⟨steps, leads⟩
    induction names generalizing path steps with
    | nil => exact ⟨path, .here path, steps, leads⟩
    | cons name rest ih =>
      cases leads with
      | place seen further =>
        obtain ⟨middle, first, second⟩ := ih _ further
        exact ⟨middle, first.place seen, second⟩
      | link seen aside further =>
        obtain ⟨middle, first, second⟩ := ih _ further
        exact ⟨middle, first.link seen ⟨_, aside⟩, second⟩
  · rintro ⟨middle, ⟨steps, first⟩, second⟩
    induction first with
    | here => exact second
    | place seen _ ih => exact (ih second).place seen
    | link seen aside _ _ ih => exact (ih second).link seen ⟨_, aside⟩

/-- What a resolution does about one name is decided by what the name stands for. -/
theorem resolveFrom_cons (active : List Path) (cache : LinkCache) (path : Path) (name : Text)
    (rest : List Text) : tree.resolveFrom active cache path (name :: rest) =
      match tree.sign path name with
      | .error e => .error e
      | .ok (.place next) => tree.resolveFrom active cache next rest
      | .ok (.link target) =>
        match cache.lookup (path ++ [name]) with
        | some resolved => tree.resolveFrom active cache resolved rest
        | none =>
          if active.contains (path ++ [name]) then .error (tree.loopError (path ++ [name]))
          else
            match tree.resolveFrom ((path ++ [name]) :: active) cache (origin path target)
                (Text.splitOn '/' target) with
            | .error e => .error e
            | .ok (resolved, later) =>
              tree.resolveFrom active ((path ++ [name], resolved) :: later) resolved rest := by
  rw [resolveFrom, sign]
  by_cases stays : name = [] ∨ name = ['.']
  · rw [if_pos stays, if_pos stays]
  · rw [if_neg stays, if_neg stays]
    by_cases dots : name = ['.', '.']
    · rw [if_pos dots, if_pos dots]
    · rw [if_neg dots, if_neg dots]
      by_cases null : name.contains '\x00' = true
      · rw [if_pos null, if_pos null]
      · rw [if_neg null, if_neg null]
        split
        · rename_i found
          rw [found]
        · rename_i target found
          rw [found]
          cases known : cache.lookup (path ++ [name]) with
          | some resolved => rfl
          | none =>
            dsimp only
            split <;> rfl
        · rename_i node noLink found
          rw [found]
          cases node with
          | link target => exact absurd rfl (noLink target)
          | _ => rfl

/-- A resolution that succeeds has gone where the names lead. -/
theorem leads_of_resolveFrom {active : List Path} {cache later : LinkCache} {path result : Path}
    {names : List Text} (remembered : tree.Remembers cache)
    (resolved : tree.resolveFrom active cache path names = .ok (result, later)) :
    tree.Leads path names result ∧ tree.Remembers later := by
  fun_induction resolveFrom tree active cache path names generalizing result later with
  | case1 =>
    cases resolved
    exact ⟨⟨0, .here⟩, remembered⟩
  | case2 active cache path name rest skipped ih =>
    have seen : tree.sign path name = .ok (.place path) := by rw [sign, if_pos skipped]
    obtain ⟨leads, known⟩ := ih remembered resolved
    exact ⟨leads.place seen, known⟩
  | case3 active cache path rest plain ih =>
    have seen : tree.sign path ['.', '.'] = .ok (.place path.dropLast) := by
      rw [sign, if_neg plain, if_pos rfl]
    obtain ⟨leads, known⟩ := ih remembered resolved
    exact ⟨leads.place seen, known⟩
  | case4 | case5 | case7 | case8 => cases resolved
  | case6 active cache path name rest plain dots nullFree target found cached known ih =>
    have seen : tree.sign path name = .ok (.link target) := by
      rw [sign, if_neg plain, if_neg dots, if_neg nullFree, found]
    obtain ⟨before, after, rfl, -⟩ := List.lookup_eq_some_iff.1 known
    obtain ⟨leads, later⟩ := ih remembered resolved
    obtain ⟨_, linked⟩ := remembered (path ++ [name], cached) (by simp)
    exact ⟨leads.link seen (linked.leads seen), later⟩
  | case9 active cache path name rest plain dots nullFree target found _ _ through grown linked ihLink ih =>
    have seen : tree.sign path name = .ok (.link target) := by
      rw [sign, if_neg plain, if_neg dots, if_neg nullFree, found]
    obtain ⟨⟨steps, aside⟩, learnt⟩ := ihLink remembered linked
    have remembersLink : tree.Remembers ((path ++ [name], through) :: grown) :=
      List.forall_mem_cons.2 ⟨⟨steps, path, name, target, rfl, seen, aside⟩, learnt⟩
    obtain ⟨leads, later⟩ := ih remembersLink resolved
    exact ⟨leads.link seen ⟨steps, aside⟩, later⟩
  | case10 active cache path name rest plain dots nullFree node noLink found ih =>
    have seen : tree.sign path name = .ok (.place (path ++ [name])) := by
      rw [sign, if_neg plain, if_neg dots, if_neg nullFree, found]
      cases node with
      | link target => exact absurd rfl (noLink target)
      | _ => rfl
    obtain ⟨leads, known⟩ := ih remembered resolved
    exact ⟨leads.place seen, known⟩

/-- Names resolve to where they lead, whatever is remembered. The links that are being resolved do not get in
the way, because each of them takes more steps than what is left to do inside it. -/
theorem LeadsIn.resolveFrom {steps : Nat} {path result : Path} {names : List Text}
    (leads : LeadsIn tree steps path names result) {active : List Path} {cache : LinkCache}
    (remembered : tree.Remembers cache) (outer : tree.Outlast steps active) :
    ∃ later, tree.resolveFrom active cache path names = .ok (result, later) ∧ tree.Remembers later := by
  induction leads generalizing active cache with
  | here => exact ⟨cache, by rw [FileTree.resolveFrom], remembered⟩
  | @place steps path name rest next result seen _ ih =>
    obtain ⟨later, further, known⟩ := ih remembered (outer.mono (by omega))
    refine ⟨later, ?_, known⟩
    rw [resolveFrom_cons, seen]
    exact further
  | @link aside steps path name rest target resolved result seen there _ ihAside ih =>
    have here : LinkLeadsIn tree aside (path ++ [name]) resolved := ⟨path, name, target, rfl, seen, there⟩
    rw [resolveFrom_cons, seen]
    cases known : cache.lookup (path ++ [name]) with
    | some cached =>
      obtain ⟨before, after, rfl, -⟩ := List.lookup_eq_some_iff.1 known
      obtain ⟨_, linked⟩ := remembered (path ++ [name], cached) (by simp)
      obtain ⟨-, rfl⟩ := here.unique linked
      exact ih remembered (outer.mono (by omega))
    | none =>
      have fresh : active.contains (path ++ [name]) = false := by
        rw [← Bool.not_eq_true, List.contains_iff_mem]
        intro member
        have bound := outer _ member _ _ here
        omega
      have outerAside : tree.Outlast aside ((path ++ [name]) :: active) := by
        refine List.forall_mem_cons.2 ⟨fun more resolved' linked => ?_, outer.mono (by omega)⟩
        exact Nat.le_of_eq (here.unique linked).1
      obtain ⟨learnt, through, knownThere⟩ := ihAside remembered outerAside
      have knows : tree.Remembers ((path ++ [name], resolved) :: learnt) :=
        List.forall_mem_cons.2 ⟨⟨aside, here⟩, knownThere⟩
      obtain ⟨later, further, knownLater⟩ := ih knows (outer.mono (by omega))
      refine ⟨later, ?_, knownLater⟩
      simp only [fresh, through, Bool.false_eq_true, if_false]
      exact further

theorem resolve_eq_ok_iff {names : List Text} {result : Path} :
    tree.resolve names = .ok result ↔ tree.Leads [] names result := by
  have nothing : tree.Remembers [] := by simp [Remembers]
  constructor
  · intro resolved
    rw [resolve] at resolved
    split at resolved
    · cases resolved
    · rename_i path later walked
      cases resolved
      exact (leads_of_resolveFrom nothing walked).1
  · rintro ⟨steps, leads⟩
    have outermost : tree.Outlast steps [] := by simp [Outlast]
    obtain ⟨later, walked, -⟩ := leads.resolveFrom nothing outermost
    rw [resolve, walked]

theorem Canonical.leads {path : Path} (canonical : tree.Canonical path) : tree.Leads [] path path := by
  have nothing : tree.Remembers [] := by simp [Remembers]
  have walked : tree.resolveFrom [] [] [] path = .ok (path, []) := canonical.resolveFrom_eq [] []
  exact (leads_of_resolveFrom nothing walked).1

/-- Names behind others resolve as they do behind the path that these resolve to. -/
theorem resolve_append {names : List Text} {middle : Path} (slashFree : ∀ name ∈ names, '/' ∉ name)
    (resolved : tree.resolve names = .ok middle) (more : List Text) (result : Path) :
    tree.resolve (middle ++ more) = .ok result ↔ tree.resolve (names ++ more) = .ok result := by
  have first := resolve_eq_ok_iff.1 resolved
  have again := (resolve_canonical slashFree resolved).leads
  rw [resolve_eq_ok_iff, resolve_eq_ok_iff, leads_append_iff, leads_append_iff]
  constructor
  · rintro ⟨path, leads, further⟩
    exact ⟨middle, first, again.unique leads ▸ further⟩
  · rintro ⟨path, leads, further⟩
    exact ⟨middle, again, first.unique leads ▸ further⟩

end ChainShell.FileTree
