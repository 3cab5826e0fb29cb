import ChainShell.Proofs.Session.Stop

namespace ChainShell

variable {World : Type} (host : Host World)

namespace Place

def ran (place : Place World (List Element)) : Outcome World :=
  place.session.run host place.world place.item

/-- The elements that the run of a chain comes to. -/
def visits (place : Place World (List Element)) : List (Place World Element) :=
  place.session.places host place.world (place.session.attempted host place.world place.item)

end Place

namespace Session

/-- Chains run one after the other on a session, whatever becomes of each. -/
def chains (session : Session) (world : World) (lines : List (List Element)) :
    List (Place World (List Element)) :=
  course (fun place => ((place.ran host).session, (place.ran host).world)) session world lines

def visits (session : Session) (world : World) (lines : List (List Element)) : List (Place World Element) :=
  (session.chains host world lines).flatMap (·.visits host)

def happenings (session : Session) (world : World) (lines : List (List Element)) : List Event :=
  (session.chains host world lines).flatMap fun place => (place.ran host).trace

theorem happenings_eq (session : Session) (world : World) (lines : List (List Element)) :
    session.happenings host world lines =
      (session.visits host world lines).flatMap fun place => (place.outcome host).trace := by
  rw [happenings, visits, List.flatMap_assoc]
  exact congrArg (List.flatMap · _) (funext fun place => run_trace host _ _ _)

theorem linked_visits (session : Session) (world : World) (lines : List (List Element)) :
    ∃ final, Linked (Place.leave host) (session, world) (session.visits host world lines) final := by
  induction lines generalizing session world with
  | nil => exact ⟨_, .nil⟩
  | cons chain rest ih =>
    obtain ⟨final, later⟩ := ih (session.run host world chain).session (session.run host world chain).world
    exact ⟨final, (linked_attempted host session world chain).append later⟩

end Session

namespace Linked

variable {start final : Session × World} {places : List (Place World Element)}

theorem limit (linked : Linked (Place.leave host) start places final) : final.1.limit = start.1.limit := by
  induction linked with
  | nil => rfl
  | @cons session world element rest final _ ih =>
    have stepped := session.step_session host world element
    rw [ih, Place.leave, Place.outcome, stepped]

/-- The directory comes of the successful changes, in order. -/
theorem cwd (linked : Linked (Place.leave host) start places final) :
    final.1.cwd = places.foldl (fun cwd place => place.directory host cwd) start.1.cwd := by
  induction linked with
  | nil => rfl
  | @cons session world element rest final _ ih =>
    have stepped := session.step_session host world element
    rw [ih, Place.leave, Place.outcome, stepped]
    rfl

/-- The world comes of the calls, one after the other. -/
theorem world (linked : Linked (Place.leave host) start places final) :
    final.2 = host.executeAll start.2 (places.flatMap (·.calls host)) := by
  induction linked with
  | nil => rfl
  | @cons session world element rest final _ ih =>
    have performed := (Place.performs host ⟨session, world, element⟩).world
    rw [ih, Place.leave, performed, List.flatMap_cons, host.executeAll_append]

end Linked

theorem Session.run_limit (session : Session) (world : World) (chain : List Element) :
    (session.run host world chain).session.limit = session.limit :=
  (linked_attempted host session world chain).limit

/-- The calls made when chains are run one after the other are those of the elements that the chains come to,
and so is the output. Each element is run in the directory that the successful changes before it lead to,
under the limit of the session, and in the world that all calls before it leave; its own calls leave the
world that it leaves. A pipe neither changes the directory nor ends the session. What is passed on to a
second command, or written, is all the output of a child that came to its end. -/
theorem Session.calls_of_chains (session : Session) (world : World) (lines : List (List Element)) :
    Trace.calls (session.happenings host world lines) =
        (session.visits host world lines).flatMap (·.calls host) ∧
      Trace.output (session.happenings host world lines) =
        (session.visits host world lines).flatMap (·.output host) ∧
      (∀ front visit back, session.visits host world lines = front ++ visit :: back →
        visit.session.limit = session.limit ∧
          visit.session.cwd = front.foldl (fun cwd place => place.directory host cwd) session.cwd ∧
          visit.world = host.executeAll world (front.flatMap (·.calls host))) ∧
      (∀ visit : Place World Element,
        (visit.outcome host).world = host.executeAll visit.world (visit.calls host)) ∧
      (∀ visit : Place World Element, ∀ first second, visit.item = .piped first second →
        (visit.outcome host).session.cwd = visit.session.cwd ∧
          ∀ code, (visit.outcome host).ending ≠ .terminated code) ∧
      (∀ there request data, (host.execute there request).2.2 = .ok data →
        ∃ status, (host.run there request).2 = .finished data status) ∧
      ∀ (here : Session) there chain count stop,
        Cut (Place.Stops host) (here.places host there chain) count stop →
          here.attempted host there chain = chain.take count := by
  have parts := happenings_eq host session world lines
  refine ⟨?_, ?_, ?_, fun visit => (visit.performs host).world, ?_, fun _ _ _ => host.finished_of_execute,
    fun _ _ _ _ _ cut => (attempted_of_cut host cut).1⟩
  · rw [parts, Trace.calls_flatMap]
    exact congrArg (List.flatMap · _) (funext fun place => (place.performs host).calls)
  · rw [parts, Trace.output_flatMap]
    exact congrArg (List.flatMap · _) (funext fun place => (place.performs host).output)
  · intro front visit back split
    obtain ⟨final, linked⟩ := linked_visits host session world lines
    rw [split] at linked
    have before := linked.before
    exact ⟨before.limit, before.cwd, before.world⟩
  · rintro ⟨here, there, element⟩ first second rfl
    refine ⟨?_, fun code terminated => ?_⟩
    · rw [Place.outcome, step_session]
      rfl
    · obtain ⟨command, single, -, -⟩ := (step_terminated_iff host).1 terminated
      cases single

end ChainShell
