import M3Midi.Foundation.Transducer
import Mathlib.Data.List.Induction

/-! # Streaks of a run

A streak is the latest part of a run in which every step meets a condition; events may weigh more
or less in it. A counter that starts again wherever the condition fails never exceeds its streak
(`M3Midi.Foundation.Transducer.exists_streak`), and a counter that keeps up with its streak until
something is done brings it about when the streak is long enough
(`M3Midi.Foundation.Transducer.Meets.done_of_streak`).
-/

namespace M3Midi.Foundation.Transducer

variable {Event State Output : Type*} (machine : Transducer Event State Output)

/-- What the events of a streak weigh together. -/
def weigh (weight : Event → ℕ) : List Event → ℕ
  | [] => 0
  | event :: events => weight event + weigh weight events

/-- The weights of two stretches add up. -/
theorem weigh_append (weight : Event → ℕ) (first second : List Event) :
    weigh weight (first ++ second) = weigh weight first + weigh weight second := by
  induction first with
  | nil => exact (Nat.zero_add _).symm
  | cons event events ih =>
      rw [List.cons_append, weigh, weigh, ih, Nat.add_assoc]

/-- A run ends in a streak of some weight. -/
def Streak (condition : State → Event → Prop) (weight : Event → ℕ) (start : State)
    (events : List Event) (least : ℕ) : Prop :=
  ∃ earlier recent, events = earlier ++ recent ∧
    machine.Meets condition (machine.run start earlier).1 recent ∧ least ≤ weigh weight recent

variable {machine} {condition : State → Event → Prop} {weight : Event → ℕ} {start : State}
  {events : List Event} {event : Event}

/-- Every run has a streak of weight zero. -/
theorem streak_zero : machine.Streak condition weight start events 0 :=
  ⟨events, [], (List.append_nil events).symm, trivial, Nat.zero_le _⟩

/-- A step that meets the condition goes on with the streak. -/
theorem Streak.concat {least : ℕ} (streak : machine.Streak condition weight start events least)
    (meets : condition (machine.run start events).1 event) :
    machine.Streak condition weight start (events ++ [event]) (least + weight event) := by
  obtain ⟨earlier, recent, rfl, met, counted⟩ := streak
  refine ⟨earlier, recent ++ [event], (List.append_assoc _ _ _), ?_, ?_⟩
  · rw [run_append] at meets
    exact (meets_concat machine).mpr ⟨met, meets⟩
  · rw [weigh_append]
    exact Nat.add_le_add counted (Nat.le_refl _)

/-- A streak has all smaller weights, too. -/
theorem Streak.mono {more less : ℕ} (streak : machine.Streak condition weight start events more)
    (fewer : less ≤ more) : machine.Streak condition weight start events less := by
  obtain ⟨earlier, recent, split, met, counted⟩ := streak
  exact ⟨earlier, recent, split, met, Nat.le_trans fewer counted⟩

/-- A counter that starts again wherever the condition fails never exceeds its streak. -/
theorem exists_streak {invariant : State → Prop} {ticks : State → ℕ}
    (kept : ∀ state event, invariant state → invariant (machine.step state event).1)
    (counts : ∀ state event, invariant state → ticks (machine.step state event).1 = 0 ∨
      (condition state event ∧ ticks (machine.step state event).1 ≤ ticks state + weight event))
    (holds : invariant start) (idle : ticks start = 0) (events : List Event) :
    machine.Streak condition weight start events (ticks (machine.run start events).1) := by
  induction events using List.reverseRecOn with
  | nil =>
      rw [run_nil, idle]
      exact streak_zero
  | append_singleton events event ih =>
      have reached := machine.run_preserves kept holds events
      rw [run_concat]
      rcases counts _ event reached with again | ⟨meets, counted⟩
      · rw [again]
        exact streak_zero
      · exact (ih.concat meets).mono counted

/-- What is done stays done as long as the condition is met. -/
theorem Meets.stays_done {invariant done : State → Prop}
    (kept : ∀ state event, invariant state → invariant (machine.step state event).1)
    (stays : ∀ state event, invariant state → condition state event → done state →
      done (machine.step state event).1)
    (holds : invariant start) (meets : machine.Meets condition start events)
    (finished : done start) : done (machine.run start events).1 := by
  induction events generalizing start with
  | nil => exact finished
  | cons event events ih =>
      exact ih (kept start event holds) meets.2 (stays start event holds meets.1 finished)

/-- A counter that keeps up with a streak until something is done, and is below a limit after
every step that weighs something, brings it about when the streak weighs as much as the limit. -/
theorem Meets.done_of_streak {invariant done : State → Prop} {ticks : State → ℕ} {limit : ℕ}
    (kept : ∀ state event, invariant state → invariant (machine.step state event).1)
    (stays : ∀ state event, invariant state → condition state event → done state →
      done (machine.step state event).1)
    (counts : ∀ state event, invariant state → condition state event → ¬ done state →
      done (machine.step state event).1 ∨
        (ticks state + weight event ≤ ticks (machine.step state event).1 ∧
          (ticks state < limit ∨ 0 < weight event →
            ticks (machine.step state event).1 < limit)))
    (holds : invariant start) (meets : machine.Meets condition start events) (some : 0 < limit)
    (long : limit ≤ weigh weight events) : done (machine.run start events).1 := by
  by_cases finished : done start
  · exact meets.stays_done kept stays holds finished
  have counted : done (machine.run start events).1 ∨
      (ticks start + weigh weight events ≤ ticks (machine.run start events).1 ∧
        (ticks start < limit ∨ 0 < weigh weight events →
          ticks (machine.run start events).1 < limit)) := by
    clear long
    induction events generalizing start with
    | nil => exact .inr ⟨Nat.le_refl _, fun short => short.resolve_right (Nat.lt_irrefl 0)⟩
    | cons event events ih =>
        have next := kept start event holds
        by_cases ends : done (machine.step start event).1
        · have later := meets.2.stays_done kept stays next ends
          exact .inl later
        · obtain ⟨counted, most⟩ := (counts start event holds meets.1 finished).resolve_left ends
          rcases ih next meets.2 ends with later | ⟨total, least⟩
          · exact .inl later
          · rw [run_cons, weigh]
            dsimp only
            refine .inr ⟨by omega, fun short => least ?_⟩
            by_cases weighs : 0 < weigh weight events
            · exact .inr weighs
            · exact .inl (most (by omega))
  rcases counted with ends | ⟨total, least⟩
  · exact ends
  · have short := least (.inr (by omega))
    omega

end M3Midi.Foundation.Transducer
