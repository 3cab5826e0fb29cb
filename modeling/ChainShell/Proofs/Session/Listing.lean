import ChainShell.Proofs.Chain.RoundTrip
import ChainShell.Proofs.Session.Calls
import ChainShell.Proofs.Text.Lines
import ChainShell.Proofs.Text.Utf8

namespace ChainShell

variable {World : Type} {host : Host World}

theorem Session.attempted_subset (session : Session) (world : World) (chain : List Element) :
    session.attempted host world chain ⊆ chain := by
  induction chain generalizing session world with
  | nil => exact List.Subset.refl _
  | cons element rest ih =>
    by_cases going : (session.step host world element).ending = .completed
    · rw [attempted_cons_of_completed host going]
      exact List.cons_subset_cons element (ih _ _)
    · rw [attempted_cons_of_stopped host going]
      exact fun _ alone => List.mem_singleton.1 alone ▸ List.mem_cons_self

/-- An element that chains come to stands in one of them. -/
theorem Session.mem_visits {session : Session} {world : World} {chains : List (List Element)}
    {visit : Place World Element} (inside : visit ∈ session.visits host world chains) :
    ∃ chain ∈ chains, visit.item ∈ chain := by
  obtain ⟨place, run, reached⟩ := List.mem_flatMap.1 inside
  have listed := List.mem_map_of_mem (f := (·.item)) run
  have attempted := List.mem_map_of_mem (f := (·.item)) reached
  rw [Session.chains, course_map_item] at listed
  rw [Place.visits, Session.places, course_map_item] at attempted
  exact ⟨place.item, listed, Session.attempted_subset _ _ _ attempted⟩

theorem Linked.history {start final : Session × World} {places : List (Place World Element)}
    (linked : Linked (Place.leave host) start places final) :
    final.1.history = start.1.history ++ places.map (·.item.text) := by
  induction linked with
  | nil => exact (List.append_nil _).symm
  | @cons session world element rest final _ ih =>
    rw [ih, Place.leave, Place.outcome, session.step_history, List.map_cons, List.append_assoc,
      List.singleton_append]

namespace Session

/-- A session that has a history only of these elements comes to a `history`, which writes this. -/
inductive Lists (host : Host World) : List Element → Bytes → Prop
  | intro {cwd : Path} {limit : Option Binary64} {world : World} {chains : List (List Element)}
      {front back : List (Place World Element)} {visit : Place World Element} {command : Command} :
      (∀ chain ∈ chains, ∃ line, Chain.parse line = .ok chain) →
      Session.visits host ⟨cwd, [], limit⟩ world chains = front ++ visit :: back →
      visit.item = .single command → command.name = "history".toList →
      Lists host (front.map (·.item)) (Trace.output (visit.outcome host).trace)

namespace Lists

variable {elements : List Element} {output : Bytes}

theorem plain (lists : Lists host elements output) : ∀ element ∈ elements, element.Plain := by
  obtain ⟨parsed, split, -, -⟩ := lists
  intro element inside
  obtain ⟨place, before, rfl⟩ := List.mem_map.1 inside
  obtain ⟨chain, listed, held⟩ := mem_visits (split ▸ List.mem_append_left _ before)
  obtain ⟨line, read⟩ := parsed chain listed
  exact Chain.plain_of_parse read _ held

theorem output_eq (lists : Lists host elements output) : output = listing (elements.map Element.text) := by
  obtain ⟨-, split, single, named⟩ := lists
  obtain ⟨final, linked⟩ := linked_visits host _ _ _
  rw [split] at linked
  have history := linked.before.history
  rw [List.nil_append] at history
  rw [(Place.performs host _).output, Place.output, single, List.map_map]
  dsimp only
  rw [if_pos named, history]
  rfl

/-- What `history` writes is a text again. -/
theorem decode_eq (lists : Lists host elements output) :
    Utf8.decode output = .ok ((elements.map Element.text).flatMap (· ++ ['\n'])) := by
  rw [lists.output_eq, listing, Utf8.decode_encode]

end Lists

end Session

end ChainShell
