import Mathlib.Data.List.Basic
import Mathlib.Logic.Basic

/-! # Event-driven transducers

A transducer reads one event at a time, moves to a new state and emits a finite
list of outputs. Running a list of events collects the outputs in order. An
invariant relating the emitted log to the state is preserved by every run once
each step preserves it (`M3Midi.Foundation.Transducer.run_invariant`), and a
step that preserves it only under a condition preserves it along the runs whose
steps all meet that condition (`M3Midi.Foundation.Transducer.run_invariant_of_meets`).
-/

namespace M3Midi.Foundation

/-- A deterministic state machine that emits outputs. Runs are finite lists of events, and the
outputs of a run are the log of its steps. -/
structure Transducer (Event State Output : Type*) where
  /-- The state after an event, and what the event emits. -/
  step : State → Event → State × List Output

namespace Transducer

variable {Event State Output : Type*} (machine : Transducer Event State Output)

/-- The state after a list of events, with everything emitted on the way. -/
def run : State → List Event → State × List Output
  | state, [] => (state, [])
  | state, event :: events =>
      let next := machine.step state event
      let rest := run next.1 events
      (rest.1, next.2 ++ rest.2)

@[simp] theorem run_nil (state : State) : machine.run state [] = (state, []) := rfl

/-- A run takes its first event and goes on. -/
theorem run_cons (state : State) (event : Event) (events : List Event) :
    machine.run state (event :: events) =
      ((machine.run (machine.step state event).1 events).1,
        (machine.step state event).2 ++ (machine.run (machine.step state event).1 events).2) :=
  rfl

/-- Running appended lists of events is running one after the other. -/
theorem run_append (state : State) (first second : List Event) :
    machine.run state (first ++ second) =
      ((machine.run (machine.run state first).1 second).1,
        (machine.run state first).2 ++ (machine.run (machine.run state first).1 second).2) := by
  induction first generalizing state with
  | nil => rfl
  | cons event events ih =>
      rw [List.cons_append, run_cons, run_cons, ih, List.append_assoc]

/-- The state that appended lists of events lead to. -/
theorem run_append_fst (state : State) (first second : List Event) :
    (machine.run state (first ++ second)).1 =
      (machine.run (machine.run state first).1 second).1 := by
  rw [run_append]

/-- A run with one more event takes it last. -/
theorem run_concat (state : State) (events : List Event) (event : Event) :
    machine.run state (events ++ [event]) =
      ((machine.step (machine.run state events).1 event).1,
        (machine.run state events).2 ++ (machine.step (machine.run state events).1 event).2) := by
  rw [run_append, run_cons, run_nil, List.append_nil]

/-- Every step of the run meets the condition at the state it starts from. -/
def Meets (condition : State → Event → Prop) : State → List Event → Prop
  | _, [] => True
  | state, event :: events =>
      condition state event ∧ Meets condition (machine.step state event).1 events

/-- Whether a run meets a decidable condition can be computed step by step. -/
instance decidableMeets (condition : State → Event → Prop)
    [∀ state event, Decidable (condition state event)] :
    ∀ state events, Decidable (machine.Meets condition state events)
  | _, [] => isTrue trivial
  | state, event :: events =>
      @instDecidableAnd _ _ inferInstance
        (decidableMeets condition (machine.step state event).1 events)

/-- The steps of a prefix of a run meet what the steps of the run meet. -/
theorem Meets.of_append {condition : State → Event → Prop} {state : State}
    {first second : List Event} (meets : machine.Meets condition state (first ++ second)) :
    machine.Meets condition state first := by
  induction first generalizing state with
  | nil => trivial
  | cons event events ih => exact ⟨meets.1, ih meets.2⟩

/-- A run meets its condition when its first part does, and what follows it. -/
theorem meets_append {condition : State → Event → Prop} {state : State}
    {first second : List Event} (meets : machine.Meets condition state first)
    (follows : machine.Meets condition (machine.run state first).1 second) :
    machine.Meets condition state (first ++ second) := by
  induction first generalizing state with
  | nil => exact follows
  | cons event events ih => exact ⟨meets.1, ih meets.2 follows⟩

/-- The last step of a run meets its condition at the state it starts from. -/
theorem Meets.last {condition : State → Event → Prop} {state : State} {events : List Event}
    {event : Event} (meets : machine.Meets condition state (events ++ [event])) :
    condition (machine.run state events).1 event := by
  induction events generalizing state with
  | nil => exact meets.1
  | cons first events ih => exact ih meets.2

/-- A run meets its condition when the run before its last step does, and that step. -/
theorem meets_concat {condition : State → Event → Prop} {state : State} {events : List Event}
    {event : Event} : machine.Meets condition state (events ++ [event]) ↔
      machine.Meets condition state events ∧ condition (machine.run state events).1 event := by
  induction events generalizing state with
  | nil => exact ⟨fun meets => ⟨trivial, meets.1⟩, fun meets => ⟨meets.2, trivial⟩⟩
  | cons first events ih =>
      rw [List.cons_append, Meets, Meets, ih, and_assoc]
      rfl

/-- A relation between log and state that every step preserves under a condition
holds after every run whose steps all meet the condition. -/
theorem run_invariant_of_meets {condition : State → Event → Prop}
    {invariant : List Output → State → Prop}
    (preserved : ∀ log state event, invariant log state → condition state event →
      invariant (log ++ (machine.step state event).2) (machine.step state event).1)
    {log : List Output} {state : State} {events : List Event} (holds : invariant log state)
    (meets : machine.Meets condition state events) :
    invariant (log ++ (machine.run state events).2) (machine.run state events).1 := by
  induction events generalizing log state with
  | nil => simpa only [run_nil, List.append_nil] using holds
  | cons event events ih =>
      rw [run_cons, ← List.append_assoc]
      exact ih (preserved log state event holds meets.1) meets.2

/-- A relation between log and state that every step preserves holds after every
run. -/
theorem run_invariant {invariant : List Output → State → Prop}
    (preserved : ∀ log state event, invariant log state →
      invariant (log ++ (machine.step state event).2) (machine.step state event).1)
    {log : List Output} {state : State} (holds : invariant log state) (events : List Event) :
    invariant (log ++ (machine.run state events).2) (machine.run state events).1 := by
  induction events generalizing log state with
  | nil => simpa only [run_nil, List.append_nil] using holds
  | cons event events ih =>
      rw [run_cons, ← List.append_assoc]
      exact ih (preserved log state event holds)

/-- A state predicate that every step preserves holds after every run. -/
theorem run_preserves {invariant : State → Prop}
    (preserved : ∀ state event, invariant state → invariant (machine.step state event).1)
    {state : State} (holds : invariant state) (events : List Event) :
    invariant (machine.run state events).1 := by
  induction events generalizing state with
  | nil => exact holds
  | cons event events ih => exact ih (preserved state event holds)

/-- A state predicate that every step preserves under a condition holds after
every run whose steps all meet the condition. -/
theorem run_preserves_of_meets {condition : State → Event → Prop} {invariant : State → Prop}
    (preserved : ∀ state event, invariant state → condition state event →
      invariant (machine.step state event).1)
    {state : State} {events : List Event} (holds : invariant state)
    (meets : machine.Meets condition state events) :
    invariant (machine.run state events).1 := by
  induction events generalizing state with
  | nil => exact holds
  | cons event events ih => exact ih (preserved state event holds meets.1) meets.2

end Transducer

end M3Midi.Foundation
