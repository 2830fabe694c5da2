import Mathlib.Data.Finset.Card
import Mathlib.Data.Finset.Range

/-! # Counted loops

A counted loop runs its body once for each number below a bound, in ascending
order. What holds before the first pass and is carried by every pass from its
number to the next holds at the end
(`M3Midi.Foundation.countedLoop_invariant`).
-/

namespace M3Midi.Foundation

variable {State : Type*}

/-- The state after the passes `0, 1, …, count - 1` of a loop. -/
def countedLoop (body : ℕ → State → State) : ℕ → State → State
  | 0, state => state
  | count + 1, state => body count (countedLoop body count state)

@[simp] theorem countedLoop_zero (body : ℕ → State → State) (state : State) :
    countedLoop body 0 state = state := rfl

/-- The last pass comes behind all others. -/
theorem countedLoop_succ (body : ℕ → State → State) (count : ℕ) (state : State) :
    countedLoop body (count + 1) state = body count (countedLoop body count state) := rfl

/-- What every pass carries from its number to the next holds after the loop. -/
theorem countedLoop_invariant {body : ℕ → State → State} {invariant : ℕ → State → Prop}
    {count : ℕ} {state : State} (start : invariant 0 state)
    (preserved : ∀ index < count, ∀ state, invariant index state →
      invariant (index + 1) (body index state)) :
    invariant count (countedLoop body count state) := by
  induction count with
  | zero => exact start
  | succ count ih =>
      exact preserved count (Nat.lt_succ_self count) _
        (ih fun index below => preserved index (Nat.lt_succ_of_lt below))

/-- A loop that counts the numbers with a property. -/
theorem countedLoop_count (property : ℕ → Bool) (count : ℕ) :
    countedLoop (fun index found => if property index then found + 1 else found) count 0 =
      ((Finset.range count).filter fun index => property index = true).card := by
  induction count with
  | zero => rfl
  | succ count ih =>
      rw [countedLoop_succ, ih, Finset.range_add_one, Finset.filter_insert]
      have outside : count ∉ (Finset.range count).filter fun index => property index = true :=
        fun member => Finset.notMem_range_self (Finset.mem_filter.mp member).1
      split_ifs
      · rw [Finset.card_insert_of_notMem outside]
      · rfl

/-- A loop that remembers the last number with a property. -/
theorem countedLoop_highest (property : ℕ → Bool) (count : ℕ) :
    let highest := countedLoop (fun index highest => if property index then (index : ℤ) else highest)
      count (-1)
    0 ≤ highest + 1 ∧ (0 ≤ highest → highest.toNat < count ∧ property highest.toNat = true) ∧
      ∀ index < count, property index = true → (index : ℤ) ≤ highest := by
  induction count with
  | zero =>
      rw [countedLoop_zero]
      exact ⟨le_rfl, fun nonneg => absurd nonneg (by decide), fun _ below => by omega⟩
  | succ count ih =>
      obtain ⟨bound, found, upper⟩ := ih
      rw [countedLoop_succ]
      split_ifs with holds
      · refine ⟨by omega, fun _ => ?_, fun index below _ => by omega⟩
        rw [Int.toNat_natCast]
        exact ⟨Nat.lt_succ_self count, holds⟩
      · refine ⟨bound, fun nonneg => ⟨?_, (found nonneg).2⟩, fun index below member => ?_⟩
        · exact Nat.lt_succ_of_lt (found nonneg).1
        · rcases Nat.lt_succ_iff_lt_or_eq.mp below with earlier | rfl
          · exact upper index earlier member
          · exact absurd member holds

end M3Midi.Foundation
