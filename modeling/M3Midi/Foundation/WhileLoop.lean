import Mathlib.Data.Nat.Notation
import Mathlib.Tactic.TypeStar

/-! # Loops that leave

A pass of a loop goes on with a new state or leaves with a result. A loop whose passes lower a
measure leaves within as many passes as the measure counts, and one more
(`M3Midi.Foundation.whileLoop_leaves`). What a loop leaves with is proved by following its
passes (`M3Midi.Foundation.whileLoop_rule`).
-/

namespace M3Midi.Foundation

variable {State Result : Type*} {pass : State → State ⊕ Result}

/-- The result of a loop that leaves within a number of passes. -/
def whileLoop (pass : State → State ⊕ Result) : ℕ → State → Option Result
  | 0, _ => none
  | passes + 1, state =>
      match pass state with
      | .inl next => whileLoop pass passes next
      | .inr result => some result

/-- A pass that goes on leaves the other passes to go on from its state. -/
theorem whileLoop_next {state next : State} (goesOn : pass state = .inl next) (passes : ℕ) :
    whileLoop pass (passes + 1) state = whileLoop pass passes next := by
  rw [whileLoop, goesOn]

/-- A pass that leaves the loop gives its result. -/
theorem whileLoop_leave {state : State} {result : Result} (leaves : pass state = .inr result)
    (passes : ℕ) : whileLoop pass (passes + 1) state = some result := by
  rw [whileLoop, leaves]

/-- A loop whose passes lower a measure leaves. -/
theorem whileLoop_leaves (measure : State → ℕ)
    (lowers : ∀ state next, pass state = .inl next → measure next < measure state)
    {passes : ℕ} {state : State} (enough : measure state < passes) :
    ∃ result, whileLoop pass passes state = some result := by
  induction passes generalizing state with
  | zero => exact absurd enough (Nat.not_lt_zero _)
  | succ passes ih =>
      cases step : pass state with
      | inl next =>
          rw [whileLoop_next step]
          exact ih (Nat.lt_of_lt_of_le (lowers state next step) (Nat.le_of_lt_succ enough))
      | inr result => exact ⟨result, whileLoop_leave step passes⟩

/-- What holds of every state from which a pass leaves, and is carried back through every other
pass, holds of the state and the result of a loop. -/
theorem whileLoop_rule {holds : State → Result → Prop}
    (leave : ∀ state result, pass state = .inr result → holds state result)
    (back : ∀ state next result, pass state = .inl next → holds next result → holds state result)
    {passes : ℕ} {state : State} {result : Result}
    (left : whileLoop pass passes state = some result) : holds state result := by
  induction passes generalizing state with
  | zero => cases left
  | succ passes ih =>
      cases step : pass state with
      | inl next =>
          rw [whileLoop_next step] at left
          exact back state next result step (ih left)
      | inr found =>
          rw [whileLoop_leave step] at left
          exact leave state result (step.trans (congrArg Sum.inr (Option.some.inj left)))

end M3Midi.Foundation
