import ChainShell.Proofs.FileTree.Afresh
import ChainShell.Proofs.Session.Travel

namespace ChainShell.Session

variable {World : Type} (host : Host World)

/-- A `cd` fails for this reason: all that it does is that it is recorded and told of. -/
def Stays (session : Session) (world : World) (argument : Text) (cause : DirectoryCause) : Prop :=
  session.step host world (cd argument) =
    ⟨session.record (cd argument), world, [.failed (cd argument) (.directory argument cause)], .completed⟩

variable {session : Session} {world : World} {argument : Text}

theorem stays_of_target {cause : DirectoryCause}
    (refused : session.target (host.files world) [argument] = .error (.directory argument cause)) :
    session.Stays host world argument cause := by
  have named : Builtin.ofName? "cd".toList = some .cd := by decide
  rw [Stays, cd, step, runSingle]
  simp only [named, target_record, refused]

theorem stays_of_unresolved {error : FileTree.ResolveError}
    (failed : (host.files world).resolve (FileTree.namesFrom session.cwd argument) = .error error) :
    session.Stays host world argument (.unresolved error) :=
  stays_of_target host (by rw [target, failed])

/-- What `cd` makes of a path that its argument resolves to. -/
theorem goes_or_stays {path : Path}
    (resolved : (host.files world).resolve (FileTree.namesFrom session.cwd argument) = .ok path) :
    if (host.files world).isDirectory path = false then session.Stays host world argument .notDirectory
    else if (host.files world).isBarred path = true then session.Stays host world argument .barred
    else session.Goes host world argument path := by
  split
  · rename_i missing
    exact stays_of_target host (by simp only [target, resolved, missing, Bool.not_false, if_true])
  · rename_i isDirectory
    rw [Bool.not_eq_false] at isDirectory
    split
    · rename_i barred
      refine stays_of_target host ?_
      simp only [target, resolved, isDirectory, barred, Bool.not_true, Bool.false_eq_true, if_false, if_true]
    · rename_i unbarred
      exact (goes_iff_resolve host).2 ⟨resolved, isDirectory, by simpa using unbarred⟩

/-- A `cd` through links, each of which might be followed whenever it is met. If they were followed without
end, it fails and leaves the directory as it is. If they failed somewhere, it fails there and for that reason.
And if they led to a path, it resolves to this path, and goes there if it is that of a directory which may be
searched, however many links there are on the way. -/
theorem cd_follows_links (session : Session) (world : World) (argument : Text) :
    let files := host.files world
    let names := FileTree.namesFrom session.cwd argument
    (files.Endless [] names →
        ∃ error, files.resolve names = .error error ∧ session.Stays host world argument (.unresolved error)) ∧
      (∀ steps error, files.resolveAfresh steps [] names = some (.error error) →
        files.resolve names = .error error ∧ session.Stays host world argument (.unresolved error)) ∧
      ∀ steps path, files.resolveAfresh steps [] names = some (.ok path) →
        files.resolve names = .ok path ∧
          if files.isDirectory path = false then session.Stays host world argument .notDirectory
          else if files.isBarred path = true then session.Stays host world argument .barred
          else session.Goes host world argument path := by
  intro files names
  refine ⟨fun without => ?_, fun steps error failed => ?_, fun steps path found => ?_⟩
  · obtain ⟨error, failed⟩ := FileTree.exists_resolve_eq_error without
    exact ⟨error, failed, stays_of_unresolved host failed⟩
  · have failed := FileTree.resolve_of_resolveAfresh failed
    exact ⟨failed, stays_of_unresolved host failed⟩
  · have resolved := FileTree.resolve_of_resolveAfresh found
    exact ⟨resolved, goes_or_stays host resolved⟩

end ChainShell.Session
