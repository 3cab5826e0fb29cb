import ChainShell.Proofs.FileTree.Canonical
import ChainShell.Proofs.Session.Run

namespace ChainShell.Session

variable {World : Type} (host : Host World)

theorem canonical_of_start {files : FileTree} {directory : Text} {limit : Option Binary64}
    {session : Session} (started : start files directory limit = .ok session) :
    files.Canonical session.cwd := by
  rw [start] at started
  split at started
  · cases started
  · rename_i resolved
    cases started
    exact FileTree.resolve_canonical (FileTree.not_mem_of_mem_namesFrom (by simp)) resolved

theorem start_text {files : FileTree} {path : Path} (canonical : files.Canonical path)
    (limit : Option Binary64) : start files (Path.text path) limit = .ok ⟨path, [], limit⟩ := by
  rw [start, canonical.resolve_text]

/-- `cd` checks what a start does not check, that the path is one of a directory. -/
theorem canonical_of_target {session : Session} {files : FileTree} {args : List Text} {path : Path}
    (slashFree : ∀ name ∈ session.cwd, '/' ∉ name) (changed : session.target files args = .ok path) :
    files.Canonical path ∧ files.isDirectory path = true := by
  rw [target.eq_def] at changed
  split at changed
  · split at changed
    · cases changed
    · rename_i resolved
      split at changed
      · cases changed
      · rename_i isDirectory
        split at changed <;> cases changed
        exact ⟨FileTree.resolve_canonical (FileTree.not_mem_of_mem_namesFrom slashFree) resolved,
          by simpa using isDirectory⟩
  · cases changed

theorem canonical_of_destination {session : Session} {files : FileTree} {element : Element} {path : Path}
    (slashFree : ∀ name ∈ session.cwd, '/' ∉ name)
    (changed : session.destination files element = some path) :
    files.Canonical path ∧ files.isDirectory path = true := by
  cases element with
  | single command =>
    rw [destination] at changed
    split at changed
    · cases chosen : session.target files command.args with
      | error e => rw [chosen] at changed; cases changed
      | ok path =>
        rw [chosen] at changed
        cases changed
        exact canonical_of_target slashFree chosen
    · cases changed
  | piped first second => cases changed

/-- The files as they were when the working directory was stored that an element leaves; `stored` are
those for the one that it finds. -/
def storedFiles (session : Session) (files stored : FileTree) (element : Element) : FileTree :=
  if (session.destination files element).isSome then files else stored

/-- The same for a chain. -/
def storedAfter (session : Session) (world : World) (stored : FileTree) : List Element → FileTree
  | [] => stored
  | element :: rest =>
    let first := session.step host world element
    let stored := session.storedFiles (host.files world) stored element
    match first.ending with
    | .completed => storedAfter first.session first.world stored rest
    | _ => stored

theorem storedAfter_cons_of_completed {session : Session} {world : World} {element : Element}
    (completed : (session.step host world element).ending = .completed) (stored : FileTree)
    (rest : List Element) : session.storedAfter host world stored (element :: rest) =
      (session.step host world element).session.storedAfter host (session.step host world element).world
        (session.storedFiles (host.files world) stored element) rest := by
  rw [storedAfter]
  simp only [completed]

theorem storedAfter_cons_of_stopped {session : Session} {world : World} {element : Element}
    (stopped : (session.step host world element).ending ≠ .completed) (stored : FileTree)
    (rest : List Element) : session.storedAfter host world stored (element :: rest) =
      session.storedFiles (host.files world) stored element := by
  rw [storedAfter]
  cases ending : (session.step host world element).ending with
  | completed => exact absurd ending stopped
  | terminated code => rfl
  | aborted error => rfl
  | crashed fault => rfl

/-- The moments of a session that started with these files, each with the files as they were when its
working directory was stored. Between its elements the world may become whatever it likes. -/
inductive Moment (session : Session) (files : FileTree) : Session → FileTree → Prop
  | start : Moment session files session files
  | step {here stored} (world : World) (element : Element) : Moment session files here stored →
      Moment session files (here.step host world element).session
        (here.storedFiles (host.files world) stored element)

namespace Moment

variable {host} {session : Session} {files : FileTree} {here : Session} {stored : FileTree}

theorem canonical (moment : Moment host session files here stored)
    (initial : files.Canonical session.cwd) : stored.Canonical here.cwd := by
  induction moment with
  | start => exact initial
  | @step here stored world element _ ih =>
    rw [step_session, storedFiles]
    cases changed : here.destination (host.files world) element with
    | none => exact ih
    | some path => exact (canonical_of_destination ih.slashFree changed).1

/-- The directory is one, or it is still that of the start. -/
theorem isDirectory_or_start (moment : Moment host session files here stored)
    (initial : files.Canonical session.cwd) :
    stored.isDirectory here.cwd = true ∨ stored = files ∧ here.cwd = session.cwd := by
  induction moment with
  | start => exact .inr ⟨rfl, rfl⟩
  | @step here stored world element earlier ih =>
    rw [step_session, storedFiles]
    cases changed : here.destination (host.files world) element with
    | none => exact ih
    | some path => exact .inl (canonical_of_destination (earlier.canonical initial).slashFree changed).2

/-- What a chain leaves, a part of a longer one included, is another moment. -/
theorem run (moment : Moment host session files here stored) (world : World) (chain : List Element) :
    Moment host session files (here.run host world chain).session
      (here.storedAfter host world stored chain) := by
  induction chain generalizing here stored world with
  | nil => exact moment
  | cons element rest ih =>
    by_cases going : (here.step host world element).ending = .completed
    · rw [run_cons_of_completed host going, storedAfter_cons_of_completed host going]
      exact ih (moment.step world element) _
    · rw [run_cons_of_stopped host going, storedAfter_cons_of_stopped host going]
      exact moment.step world element

end Moment

/-- The working directory of a session is an absolute path of plain names without links, from the start
on and whatever chains are run. It is that of a directory at every moment if and only if it is so at the
start. -/
theorem cwd_throughout {files : FileTree} {directory : Text} {limit : Option Binary64} {session : Session}
    (started : start files directory limit = .ok session) :
    (∀ here stored, Moment host session files here stored → stored.Canonical here.cwd ∧
        (Path.text here.cwd).head? = some '/' ∧
          (Text.splitOn '/' (Path.text here.cwd)).filter (!·.isEmpty) = here.cwd) ∧
      (∀ here stored world chain, Moment host session files here stored →
        Moment host session files (here.run host world chain).session
          (here.storedAfter host world stored chain)) ∧
      ((∀ here stored, Moment host session files here stored → stored.isDirectory here.cwd = true) ↔
        files.isDirectory session.cwd = true) := by
  have initial := canonical_of_start started
  refine ⟨?_, ?_, ?_⟩
  · intro here stored moment
    have canonical := moment.canonical initial
    exact ⟨canonical, Path.text_head _, canonical.names_text⟩
  · exact fun here stored world chain moment => moment.run world chain
  · constructor
    · exact fun throughout => throughout session files .start
    · intro isDirectory here stored moment
      rcases moment.isDirectory_or_start initial with changed | ⟨rfl, same⟩
      · exact changed
      · rwa [same]

/-- A directory with a file in it. -/
def shelf : FileTree where
  entries := [([['d']], .directory), ([['d'], ['f']], .file (.data []) 0o644)]

theorem canonical_shelf : shelf.Canonical [['d']] := by
  have found : shelf.lstat [] ['d'] = .ok .directory := rfl
  exact (FileTree.Canonical.root shelf).child (by decide) found (by simp)

theorem cwd_throughout_shelf : start shelf ['/', 'd'] none = .ok ⟨[['d']], [], none⟩ ∧
    ∀ here stored, Moment (.still shelf) ⟨[['d']], [], none⟩ shelf here stored →
      stored.Canonical here.cwd ∧ stored.isDirectory here.cwd = true := by
  have started := start_text canonical_shelf none
  obtain ⟨canonical, -, isDirectory⟩ := cwd_throughout (.still shelf) started
  exact ⟨started, fun here stored moment =>
    ⟨(canonical here stored moment).1, isDirectory.2 (by decide) here stored moment⟩⟩

/-- A session may start at a file. -/
theorem start_at_file : start shelf ['/', 'd', '/', 'f'] none = .ok ⟨[['d'], ['f']], [], none⟩ ∧
    shelf.isDirectory [['d'], ['f']] = false := by
  have found : shelf.lstat [['d']] ['f'] = .ok (.file (.data []) 0o644) := rfl
  have canonical : shelf.Canonical [['d'], ['f']] := canonical_shelf.child (by decide) found (by simp)
  exact ⟨start_text canonical none, by decide⟩

end ChainShell.Session
