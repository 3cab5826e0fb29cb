import ChainShell.Event

namespace ChainShell

/-- What is told of something that went wrong: of an element that was recovered from, or of a line that
was given up. -/
inductive Report where
  | element (element : Element) (error : ShellError)
  | line (line : Text) (error : ShellError)
  deriving DecidableEq, Repr

namespace Trace

/-- Everything that is told of what went wrong, in order. -/
def reports (trace : List Event) : List Report :=
  trace.filterMap fun
    | .failed element error => some (.element element error)
    | .discarded line error => some (.line line error)
    | _ => none

theorem reports_append (one other : List Event) : reports (one ++ other) = reports one ++ reports other :=
  List.filterMap_append

theorem transcript_append (one other : List Event) :
    transcript (one ++ other) = transcript one ++ transcript other :=
  List.flatMap_append

theorem output_append (one other : List Event) : output (one ++ other) = output one ++ output other :=
  List.flatMap_append

theorem failures_append (one other : List Event) :
    failures (one ++ other) = failures one ++ failures other :=
  List.filterMap_append

theorem calls_append (one other : List Event) : calls (one ++ other) = calls one ++ calls other :=
  List.filterMap_append

theorem discards_append (one other : List Event) :
    discards (one ++ other) = discards one ++ discards other :=
  List.filterMap_append

/-- Nothing of a trace is output of commands, and it tells of nothing that went wrong. -/
structure Quiet (trace : List Event) : Prop where
  output : Trace.output trace = []
  reports : Trace.reports trace = []

theorem Quiet.append {one other : List Event} (first : Quiet one) (second : Quiet other) :
    Quiet (one ++ other) :=
  ⟨by rw [output_append, first.output, second.output, List.append_nil],
    by rw [reports_append, first.reports, second.reports, List.append_nil]⟩

/-- A view of a trace part by part shows the same without the events of which it shows nothing. -/
theorem view_filter {α : Type} {view : List Event → List α} (empty : view [] = [])
    (parts : ∀ one other, view (one ++ other) = view one ++ view other) {keep : Event → Bool}
    (silent : ∀ event, keep event = false → view [event] = []) (trace : List Event) :
    view (trace.filter keep) = view trace := by
  induction trace with
  | nil => rw [List.filter_nil, empty]
  | cons event rest ih =>
    rw [← List.singleton_append, parts, ← ih]
    cases kept : keep event with
    | true => rw [List.singleton_append, List.filter_cons_of_pos kept, ← parts, List.singleton_append]
    | false => rw [List.singleton_append, List.filter_cons_of_neg (by simp [kept]), silent event kept,
        List.nil_append]

theorem view_flatMap {α β : Type} {view : List Event → List α} (empty : view [] = [])
    (parts : ∀ one other, view (one ++ other) = view one ++ view other) (trace : β → List Event)
    (items : List β) : view (items.flatMap trace) = items.flatMap fun item => view (trace item) := by
  induction items with
  | nil => exact empty
  | cons item rest ih => rw [List.flatMap_cons, parts, ih, List.flatMap_cons]

theorem output_flatMap {β : Type} (trace : β → List Event) (items : List β) :
    output (items.flatMap trace) = items.flatMap fun item => output (trace item) :=
  view_flatMap rfl output_append trace items

theorem calls_flatMap {β : Type} (trace : β → List Event) (items : List β) :
    calls (items.flatMap trace) = items.flatMap fun item => calls (trace item) :=
  view_flatMap rfl calls_append trace items

/-- A trace without what is said of lines that were given up. -/
def undiscarded (trace : List Event) : List Event :=
  trace.filter fun
    | .discarded _ _ => false
    | _ => true

theorem undiscarded_append (one other : List Event) :
    undiscarded (one ++ other) = undiscarded one ++ undiscarded other :=
  List.filter_append ..

/-- What is said of lines that were given up matters to no view that does not show it. -/
theorem view_undiscarded {α : Type} {view : List Event → List α} (empty : view [] = [])
    (parts : ∀ one other, view (one ++ other) = view one ++ view other)
    (silent : ∀ line error, view [.discarded line error] = []) (trace : List Event) :
    view (undiscarded trace) = view trace :=
  view_filter empty parts (fun event dropped => by
    cases event with
    | discarded line error => exact silent line error
    | _ => cases dropped) trace

theorem output_undiscarded (trace : List Event) : output (undiscarded trace) = output trace :=
  view_undiscarded rfl output_append (fun _ _ => rfl) trace

theorem failures_undiscarded (trace : List Event) : failures (undiscarded trace) = failures trace :=
  view_undiscarded rfl failures_append (fun _ _ => rfl) trace

theorem calls_undiscarded (trace : List Event) : calls (undiscarded trace) = calls trace :=
  view_undiscarded rfl calls_append (fun _ _ => rfl) trace

def unprompted (trace : List Event) : List Event :=
  trace.filter fun
    | .prompted _ => false
    | _ => true

theorem unprompted_append (one other : List Event) :
    unprompted (one ++ other) = unprompted one ++ unprompted other :=
  List.filter_append ..

/-- Prompts matter to no view that does not show them. -/
theorem view_unprompted {α : Type} {view : List Event → List α} (empty : view [] = [])
    (parts : ∀ one other, view (one ++ other) = view one ++ view other)
    (silent : ∀ prompt, view [.prompted prompt] = []) (trace : List Event) :
    view (unprompted trace) = view trace :=
  view_filter empty parts (fun event dropped => by
    cases event with
    | prompted prompt => exact silent prompt
    | _ => cases dropped) trace

theorem output_unprompted (trace : List Event) : output (unprompted trace) = output trace :=
  view_unprompted rfl output_append (fun _ => rfl) trace

theorem failures_unprompted (trace : List Event) : failures (unprompted trace) = failures trace :=
  view_unprompted rfl failures_append (fun _ => rfl) trace

theorem reports_unprompted (trace : List Event) : reports (unprompted trace) = reports trace :=
  view_unprompted rfl reports_append (fun _ => rfl) trace

theorem calls_unprompted (trace : List Event) : calls (unprompted trace) = calls trace :=
  view_unprompted rfl calls_append (fun _ => rfl) trace

theorem discards_unprompted (trace : List Event) : discards (unprompted trace) = discards trace :=
  view_unprompted rfl discards_append (fun _ => rfl) trace

/-- Without prompts, all that is shown is output of commands. -/
theorem transcript_unprompted (trace : List Event) : transcript (unprompted trace) = output trace := by
  induction trace with
  | nil => rfl
  | cons event rest ih =>
    cases event with
    | prompted prompt => exact ih
    | _ => exact congrArg (_ ++ ·) ih

end Trace

end ChainShell
