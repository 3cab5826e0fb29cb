import ChainShell.Session

namespace ChainShell

variable {World Item : Type}

/-- Something to be run, with the session and the world that it finds. -/
structure Place (World Item : Type) where
  session : Session
  world : World
  item : Item

/-- Items in a row, each with the session and the world that those before it leave; `leave` says what one
of them leaves. -/
def course (leave : Place World Item → Session × World) (session : Session) (world : World) :
    List Item → List (Place World Item)
  | [] => []
  | item :: rest =>
    let left := leave ⟨session, world, item⟩
    ⟨session, world, item⟩ :: course leave left.1 left.2 rest

theorem course_length (leave : Place World Item → Session × World) (session : Session) (world : World)
    (items : List Item) : (course leave session world items).length = items.length := by
  induction items generalizing session world with
  | nil => rfl
  | cons item rest ih => exact congrArg (· + 1) (ih _ _)

theorem course_take (leave : Place World Item → Session × World) (session : Session) (world : World)
    (items : List Item) (count : Nat) :
    (course leave session world items).take count = course leave session world (items.take count) := by
  induction items generalizing session world count with
  | nil => simp only [course, List.take_nil]
  | cons item rest ih =>
    cases count with
    | zero => rfl
    | succ count => exact congrArg (_ :: ·) (ih _ _ count)

theorem course_map_item (leave : Place World Item → Session × World) (session : Session) (world : World)
    (items : List Item) : (course leave session world items).map (·.item) = items := by
  induction items generalizing session world with
  | nil => rfl
  | cons item rest ih => exact congrArg (item :: ·) (ih _ _)

/-- Places hold these items; and if nothing that is run changes the limit, it is everywhere that of the
start. -/
theorem mem_course {leave : Place World Item → Session × World} {session : Session} {world : World}
    {items : List Item} {place : Place World Item}
    (kept : ∀ place, (leave place).1.limit = place.session.limit)
    (inside : place ∈ course leave session world items) :
    place.item ∈ items ∧ place.session.limit = session.limit := by
  induction items generalizing session world with
  | nil => cases inside
  | cons item rest ih =>
    rcases List.mem_cons.1 inside with rfl | later
    · exact ⟨List.mem_cons_self, rfl⟩
    · obtain ⟨listed, limited⟩ := ih later
      exact ⟨List.mem_cons_of_mem _ listed, limited.trans (kept _)⟩

/-- These places lead from one session and world to another, each from what the one before it leaves. -/
inductive Linked (leave : Place World Item → Session × World) :
    Session × World → List (Place World Item) → Session × World → Prop
  | nil {state} : Linked leave state [] state
  | cons {session world item rest final} : Linked leave (leave ⟨session, world, item⟩) rest final →
      Linked leave (session, world) (⟨session, world, item⟩ :: rest) final

namespace Linked

variable {leave : Place World Item → Session × World}

theorem append {start middle final : Session × World} {one other : List (Place World Item)}
    (first : Linked leave start one middle) (second : Linked leave middle other final) :
    Linked leave start (one ++ other) final := by
  induction first with
  | nil => exact second
  | cons _ ih => exact .cons (ih second)

/-- What leads up to a place leads to the session and the world that it finds. -/
theorem before {start final : Session × World} {front back : List (Place World Item)}
    {place : Place World Item} (linked : Linked leave start (front ++ place :: back) final) :
    Linked leave start front (place.session, place.world) := by
  induction front generalizing start with
  | nil =>
    cases linked
    exact .nil
  | cons first rest ih =>
    cases linked with
    | cons later => exact .cons (ih later)

end Linked

/-- How many of the places a run comes to, and what stops it at the last of these, if anything does. -/
inductive Cut {Stop : Type} (Stops : Place World Item → Stop → Prop) :
    List (Place World Item) → Nat → Option Stop → Prop
  | nil : Cut Stops [] 0 none
  | here {place rest stop} : Stops place stop → Cut Stops (place :: rest) 1 (some stop)
  | later {place rest count stop} : (∀ other, ¬ Stops place other) → Cut Stops rest count stop →
      Cut Stops (place :: rest) (count + 1) stop

namespace Cut

variable {Stop : Type} {Stops : Place World Item → Stop → Prop}

theorem exists_cut (Stops : Place World Item → Stop → Prop) (places : List (Place World Item)) :
    ∃ count stop, Cut Stops places count stop := by
  induction places with
  | nil => exact ⟨0, none, .nil⟩
  | cons place rest ih =>
    obtain ⟨count, stop, later⟩ := ih
    by_cases stops : ∃ other, Stops place other
    · obtain ⟨other, here⟩ := stops
      exact ⟨1, some other, .here here⟩
    · exact ⟨count + 1, stop, .later (not_exists.1 stops) later⟩

theorem count_of_none {places : List (Place World Item)} {count : Nat} (cut : Cut Stops places count none) :
    count = places.length := by
  generalize whole : (none : Option Stop) = stop at cut
  induction cut with
  | nil => rfl
  | here _ => cases whole
  | later _ _ ih => rw [ih whole, List.length_cons]

theorem count_le {places : List (Place World Item)} {count : Nat} {stop : Option Stop}
    (cut : Cut Stops places count stop) : count ≤ places.length := by
  induction cut with
  | nil => exact Nat.le_refl _
  | here _ => exact Nat.succ_le_succ (Nat.zero_le _)
  | later _ _ ih => exact Nat.succ_le_succ ih

theorem exists_stops {places : List (Place World Item)} {count : Nat} {stop : Stop}
    (cut : Cut Stops places count (some stop)) : ∃ place, Stops place stop := by
  generalize whole : some stop = last at cut
  induction cut with
  | nil => cases whole
  | @here place _ _ stops =>
    cases whole
    exact ⟨place, stops⟩
  | later _ _ ih => exact ih whole

/-- With further reasons to stop, a run is cut where it was, if and only if none of these arises up to
there. -/
theorem widen_iff {Wide : Place World Item → Stop → Prop} {Further : Place World Item → Prop}
    (kept : ∀ place stop, Stops place stop → Wide place stop)
    (split : ∀ place stop, Wide place stop → Stops place stop ∨ Further place)
    (further : ∀ place, Further place → ∃ stop, Wide place stop)
    (apart : ∀ place stop, Stops place stop → ¬ Further place) {places : List (Place World Item)}
    {count : Nat} {stop : Option Stop} (cut : Cut Stops places count stop) :
    Cut Wide places count stop ↔ ∀ place ∈ places.take count, ¬ Further place := by
  induction cut with
  | nil => exact ⟨fun _ _ inside => (List.not_mem_nil inside).elim, fun _ => .nil⟩
  | @here place rest stop stops =>
    have alone : (place :: rest).take 1 = [place] := rfl
    rw [alone, List.forall_mem_singleton]
    exact ⟨fun _ => apart place stop stops, fun _ => .here (kept place stop stops)⟩
  | @later place rest count stop passes cut ih =>
    rw [List.take_succ_cons, List.forall_mem_cons, ← ih]
    constructor
    · intro wide
      cases wide with
      | here _ =>
        -- a run that comes to no place is not stopped
        cases cut
      | later going later =>
        refine ⟨fun arises => ?_, later⟩
        obtain ⟨other, stopped⟩ := further place arises
        exact going other stopped
    · rintro ⟨none, later⟩
      refine .later (fun other stopped => ?_) later
      rcases split place other stopped with stops | arises
      · exact passes other stops
      · exact none arises

/-- A run that is cut by none of its further reasons to stop is cut where it would be without them. -/
theorem narrow {Wide : Place World Item → Stop → Prop} {stop : Option Stop}
    (kept : ∀ place other, Stops place other → Wide place other)
    (plain : ∀ place other, stop = some other → Wide place other → Stops place other)
    {places : List (Place World Item)} {count : Nat} (cut : Cut Wide places count stop) :
    Cut Stops places count stop := by
  induction cut with
  | nil => exact .nil
  | here wide => exact .here (plain _ _ rfl wide)
  | later going _ ih => exact .later (fun other stops => going other (kept _ _ stops)) (ih plain)

end Cut

end ChainShell
