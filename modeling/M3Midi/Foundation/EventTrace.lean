import M3Midi.Foundation.Transducer

/-! # Traces

Where every step of a transducer is a few steps of another one, seen through a view of its state,
a run is the run of the other over what the steps come to, the trace
(`M3Midi.Foundation.Transducer.run_trace`).
-/

namespace M3Midi.Foundation.Transducer

variable {Event State Output Inner View Seen : Type*} (machine : Transducer Event State Output)

/-- What the steps of a run come to. -/
def trace (translate : State → Event → List Inner) : State → List Event → List Inner
  | _, [] => []
  | state, event :: events =>
      translate state event ++ trace translate (machine.step state event).1 events

variable {machine} {translate : State → Event → List Inner} {inner : Transducer Inner View Seen}
  {view : State → View} {read : Output → Option Seen}

/-- A run is seen as the run of its trace. -/
theorem run_trace
    (simulates : ∀ state event, inner.run (view state) (translate state event) =
      (view (machine.step state event).1, (machine.step state event).2.filterMap read))
    (state : State) (events : List Event) :
    inner.run (view state) (machine.trace translate state events) =
      (view (machine.run state events).1, (machine.run state events).2.filterMap read) := by
  induction events generalizing state with
  | nil => rfl
  | cons event events ih =>
      rw [trace, run_append, simulates, ih, run_cons, List.filterMap_append]

/-- The trace of a run meets a condition when the steps of the run see to it. -/
theorem Meets.trace {condition : State → Event → Prop} {met : View → Inner → Prop}
    (simulates : ∀ state event, inner.run (view state) (translate state event) =
      (view (machine.step state event).1, (machine.step state event).2.filterMap read))
    (steps : ∀ state event, condition state event →
      inner.Meets met (view state) (translate state event))
    {state : State} {events : List Event} (meets : machine.Meets condition state events) :
    inner.Meets met (view state) (machine.trace translate state events) := by
  induction events generalizing state with
  | nil => trivial
  | cons event events ih =>
      refine meets_append inner (steps state event meets.1) ?_
      rw [simulates]
      exact ih meets.2

/-- An event that comes again and again meets a condition when it does each time. -/
theorem meets_replicate {condition : State → Event → Prop} {event : Event} {length : ℕ}
    {state : State} (each : ∀ earlier, earlier < length →
      condition (machine.run state (List.replicate earlier event)).1 event) :
    machine.Meets condition state (List.replicate length event) := by
  induction length with
  | zero => trivial
  | succ length ih =>
      rw [List.replicate_succ']
      refine (meets_concat machine).mpr ⟨ih fun earlier few => ?_, each length (Nat.lt_succ_self _)⟩
      exact each earlier (Nat.lt_succ_of_lt few)

end M3Midi.Foundation.Transducer
