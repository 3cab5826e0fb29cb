import ChainShell.Proofs.FileTree.Resolution
import ChainShell.Proofs.Session.Directory
import ChainShell.Proofs.Session.Failures

namespace ChainShell

namespace Session

variable {World : Type} (host : Host World)

def cd (argument : Text) : Element :=
  .single ⟨"cd".toList, [argument]⟩

/-- A `cd` succeeds: all that it does is that it is recorded and that this is the working directory
afterwards. -/
def Goes (session : Session) (world : World) (argument : Text) (path : Path) : Prop :=
  session.step host world (cd argument) =
    ⟨{ session.record (cd argument) with cwd := path }, world, [], .completed⟩

theorem target_eq_ok_iff {session : Session} {files : FileTree} {argument : Text} {path : Path} :
    session.target files [argument] = .ok path ↔
      files.resolve (FileTree.namesFrom session.cwd argument) = .ok path ∧
        files.isDirectory path = true ∧ files.isBarred path = false := by
  rw [target]
  cases files.resolve (FileTree.namesFrom session.cwd argument) with
  | error e => simp
  | ok found =>
    constructor
    · intro chosen
      dsimp only at chosen
      split at chosen
      · cases chosen
      · rename_i isDirectory
        split at chosen
        · cases chosen
        · rename_i unbarred
          cases chosen
          exact ⟨rfl, by simpa using isDirectory, by simpa using unbarred⟩
    · rintro ⟨same, isDirectory, unbarred⟩
      cases same
      simp [isDirectory, unbarred]

theorem goes_iff {session : Session} {world : World} {argument : Text} {path : Path} :
    session.Goes host world argument path ↔ session.target (host.files world) [argument] = .ok path := by
  have named : Builtin.ofName? "cd".toList = some .cd := by decide
  rw [Goes, cd, step, runSingle]
  simp only [named, target_record]
  cases session.target (host.files world) [argument] with
  | error e => simp
  | ok found => simp

theorem goes_iff_resolve {session : Session} {world : World} {argument : Text} {path : Path} :
    session.Goes host world argument path ↔
      (host.files world).resolve (FileTree.namesFrom session.cwd argument) = .ok path ∧
        (host.files world).isDirectory path = true ∧ (host.files world).isBarred path = false := by
  rw [goes_iff, target_eq_ok_iff]

theorem resolve_dot {files : FileTree} {path : Path} (canonical : files.Canonical path) :
    files.resolve (FileTree.namesFrom path ['.']) = .ok path := by
  have cut : Text.splitOn '/' ['.'] = [['.']] := rfl
  have stays : files.Leads path [['.']] path := FileTree.Leads.place rfl (.here path)
  rw [FileTree.namesFrom_relative (by simp), cut, FileTree.resolve_eq_ok_iff, FileTree.leads_append_iff]
  exact ⟨path, canonical.leads, stays⟩

/-- Where a `cd` has led, another one by a path that does not begin with a slash leads where one by both paths
with a slash between them would have led, and to nowhere if that leads nowhere. The text of the directory
that it has led to leads there from everywhere, and a dot leads nowhere else. No name in a path has a slash in
it. -/
theorem cd_composes {session : Session} {world : World} {first second : Text} {path : Path}
    (slashFree : ∀ name ∈ session.cwd, '/' ∉ name) (nonempty : first ≠ [])
    (relative : second.head? ≠ some '/') (went : session.Goes host world first path) :
    (∀ here : Session, here.cwd = path → ∀ there,
        here.Goes host world second there ↔ session.Goes host world (first ++ '/' :: second) there) ∧
      (∀ other : Session, other.Goes host world (Path.text path) path) ∧
      ∀ here : Session, here.cwd = path → here.Goes host world ['.'] path := by
  simp only [goes_iff_resolve] at went ⊢
  obtain ⟨resolved, isDirectory, unbarred⟩ := went
  have free : ∀ name ∈ FileTree.namesFrom session.cwd first, '/' ∉ name :=
    FileTree.not_mem_of_mem_namesFrom slashFree
  have canonical := FileTree.resolve_canonical free resolved
  refine ⟨?_, ?_, ?_⟩
  · rintro here rfl there
    have same := FileTree.resolve_append free resolved (Text.splitOn '/' second) there
    rw [FileTree.namesFrom_relative relative, FileTree.namesFrom_append nonempty, same]
  · exact fun other => ⟨canonical.resolve_text other.cwd, isDirectory, unbarred⟩
  · rintro here rfl
    exact ⟨resolve_dot canonical, isDirectory, unbarred⟩

/-- A directory in a directory, with links to it and back. -/
def maze : FileTree where
  entries := [([['a']], .directory), ([['a'], ['b']], .directory),
    ([['l']], .link ['/', 'a', '/', '.', '/', 'b', '/']), ([['a'], ['u']], .link "../l/../b/.".toList)]

/-- The link in the first directory leads into the second one, by way of the other link. -/
theorem leads_maze :
    maze.Leads [['a']] [['.', '.'], ['l'], ['.', '.'], ['b'], ['.']] [['a'], ['b']] := by
  have absolute : maze.Leads [] [[], ['a'], ['.'], ['b'], []] [['a'], ['b']] :=
    .place rfl (.place rfl (.place rfl (.place rfl (.place rfl (.here _)))))
  exact .place rfl (.link rfl (.place rfl (.place rfl (.place rfl (.here _)))) absolute)

theorem cd_composes_maze :
    let outer : Session := ⟨[['a']], [], none⟩
    let inner : Session := ⟨[['a'], ['b']], [], none⟩
    outer.Goes (.still maze) () ['u'] inner.cwd ∧
      inner.Goes (.still maze) () "../u/..".toList outer.cwd ∧
      outer.Goes (.still maze) () "u/../u/..".toList outer.cwd ∧
      outer.Goes (.still maze) () "/a/b".toList inner.cwd ∧ inner.Goes (.still maze) () ['.'] inner.cwd := by
  intro outer inner
  have down : maze.Leads [] [['a'], ['u']] inner.cwd := .place rfl (.link rfl (.here _) leads_maze)
  have round : maze.Leads [] [['a'], ['b'], ['.', '.'], ['u'], ['.', '.']] outer.cwd :=
    .place rfl (.place rfl (.place rfl (.link rfl (.place rfl (.here _)) leads_maze)))
  have went : outer.Goes (.still maze) () ['u'] inner.cwd :=
    (goes_iff_resolve _).2 ⟨FileTree.resolve_eq_ok_iff.2 down, by decide, by decide⟩
  have further : inner.Goes (.still maze) () "../u/..".toList outer.cwd :=
    (goes_iff_resolve _).2 ⟨FileTree.resolve_eq_ok_iff.2 round, by decide, by decide⟩
  have relative : "../u/..".toList.head? ≠ some '/' := by decide
  obtain ⟨composes, returns, stays⟩ :=
    cd_composes (.still maze) (by decide) (by simp) relative went
  exact ⟨went, further, (composes inner rfl outer.cwd).1 further, returns outer, stays inner rfl⟩

end Session

end ChainShell
