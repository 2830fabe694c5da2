import Mathlib.Algebra.Order.Archimedean.Basic
import Mathlib.Algebra.Order.Field.Basic
import Mathlib.Tactic.Linarith
import Mathlib.Tactic.LinearCombination
import Mathlib.Tactic.Ring

/-! # Followers

A follower keeps a part of the level it has and takes the rest from the value that comes. It stays
where levels and values are not negative, and the square of what is followed is at most what
follows the squares. Once the values fade away the level falls below any floor, and stays there
(`M3Midi.Foundation.exists_follow_lt`).
-/

namespace M3Midi.Foundation

variable {K : Type*} [Field K] [LinearOrder K] [IsStrictOrderedRing K]

/-- The level of a follower after a value. -/
def follow (decay level value : K) : K := decay * level + (1 - decay) * value

variable {decay level value : K}

/-- A follower that starts at no negative level and follows no negative value gets to no negative
level. -/
theorem follow_nonneg (keeps : 0 ≤ decay) (loses : decay ≤ 1) (above : 0 ≤ level)
    (comes : 0 ≤ value) : 0 ≤ follow decay level value := by
  unfold follow
  have kept := mul_nonneg keeps above
  have taken := mul_nonneg (sub_nonneg.mpr loses) comes
  linarith

/-- A follower of larger values, from a higher level, is at a higher level. -/
theorem follow_mono {higher larger : K} (keeps : 0 ≤ decay) (loses : decay ≤ 1)
    (levels : level ≤ higher) (values : value ≤ larger) :
    follow decay level value ≤ follow decay higher larger := by
  unfold follow
  have kept := mul_le_mul_of_nonneg_left levels keeps
  have taken := mul_le_mul_of_nonneg_left values (sub_nonneg.mpr loses)
  linarith

/-- The square of what is followed is at most what follows the squares. -/
theorem sq_follow_le (keeps : 0 ≤ decay) (loses : decay ≤ 1) :
    follow decay level value ^ 2 ≤ follow decay (level ^ 2) (value ^ 2) := by
  have spread : 0 ≤ decay * (1 - decay) * (level - value) ^ 2 :=
    mul_nonneg (mul_nonneg keeps (sub_nonneg.mpr loses)) (sq_nonneg _)
  have split : follow decay (level ^ 2) (value ^ 2) - follow decay level value ^ 2 =
      decay * (1 - decay) * (level - value) ^ 2 := by
    unfold follow
    ring
  linarith

section Fading

variable {fade floor : K} {levels values : ℕ → K}

/-- What follows a fading value falls as fast as a power of any ratio above both rates. By
induction on the samples. -/
theorem follow_le_geometric {ratio : K} (keeps : 0 ≤ decay) (above : decay < ratio)
    (loses : decay ≤ 1) (fading : 0 ≤ fade) (slower : fade ≤ ratio)
    (follows : ∀ step, levels (step + 1) = follow decay (levels step) (values step))
    (fades : ∀ step, values (step + 1) = fade * values step)
    (start : 0 ≤ levels 0) (first : 0 ≤ values 0) (step : ℕ) :
    values step ≤ values 0 * ratio ^ step ∧
      levels step ≤ (levels 0 + (1 - decay) * values 0 / (ratio - decay)) * ratio ^ step := by
  have room : 0 < ratio - decay := sub_pos.mpr above
  have positive : 0 ≤ ratio := keeps.trans above.le
  have share : 0 ≤ (1 - decay) * values 0 / (ratio - decay) :=
    div_nonneg (mul_nonneg (sub_nonneg.mpr loses) first) room.le
  induction step with
  | zero =>
      rw [pow_zero, mul_one, mul_one]
      exact ⟨le_rfl, le_add_of_nonneg_right share⟩
  | succ step ih =>
      obtain ⟨value, level⟩ := ih
      have power : 0 ≤ ratio ^ step := pow_nonneg positive step
      constructor
      · calc values (step + 1) = fade * values step := fades step
          _ ≤ fade * (values 0 * ratio ^ step) := mul_le_mul_of_nonneg_left value fading
          _ ≤ ratio * (values 0 * ratio ^ step) :=
              mul_le_mul_of_nonneg_right slower (mul_nonneg first power)
          _ = values 0 * ratio ^ (step + 1) := by ring
      · have whole : (1 - decay) * values 0 =
            (1 - decay) * values 0 / (ratio - decay) * (ratio - decay) :=
          (div_mul_cancel₀ _ room.ne').symm
        calc levels (step + 1) = follow decay (levels step) (values step) := follows step
          _ ≤ follow decay ((levels 0 + (1 - decay) * values 0 / (ratio - decay)) * ratio ^ step)
                (values 0 * ratio ^ step) := follow_mono keeps loses level value
          _ = (decay * levels 0 + (1 - decay) * values 0 / (ratio - decay) * ratio) *
                ratio ^ step := by
              unfold follow
              linear_combination ratio ^ step * whole
          _ ≤ (ratio * levels 0 + (1 - decay) * values 0 / (ratio - decay) * ratio) *
                ratio ^ step := by
              apply mul_le_mul_of_nonneg_right _ power
              have kept := mul_le_mul_of_nonneg_right above.le start
              linarith
          _ = (levels 0 + (1 - decay) * values 0 / (ratio - decay)) * ratio ^ (step + 1) := by ring

/-- **A follower of nothing.** What follows a value that fades away is below any floor from some
step on. -/
theorem exists_follow_lt [Archimedean K] (keeps : 0 ≤ decay) (loses : decay < 1) (fading : 0 ≤ fade)
    (ends : fade < 1) (follows : ∀ step, levels (step + 1) = follow decay (levels step) (values step))
    (fades : ∀ step, values (step + 1) = fade * values step)
    (start : 0 ≤ levels 0) (first : 0 ≤ values 0) (positive : 0 < floor) :
    ∃ quiet, ∀ step, quiet ≤ step → levels step < floor := by
  obtain ⟨ratio, above, below⟩ := exists_between (max_lt loses ends)
  have faster := (le_max_left decay fade).trans_lt above
  have slower := (le_max_right decay fade).trans above.le
  have small : 0 ≤ ratio := keeps.trans faster.le
  let most := levels 0 + (1 - decay) * values 0 / (ratio - decay)
  have some : 0 ≤ most :=
    add_nonneg start (div_nonneg (mul_nonneg (sub_nonneg.mpr loses.le) first)
      (sub_nonneg.mpr faster.le))
  obtain ⟨quiet, few⟩ := exists_pow_lt_of_lt_one (div_pos positive (add_pos_of_nonneg_of_pos some
    one_pos)) below
  refine ⟨quiet, fun step late => ?_⟩
  have later : ratio ^ step ≤ ratio ^ quiet := pow_le_pow_of_le_one small below.le late
  have bound := (follow_le_geometric keeps faster loses.le fading slower follows fades start first
    step).2
  calc levels step ≤ most * ratio ^ step := bound
    _ ≤ most * ratio ^ quiet := mul_le_mul_of_nonneg_left later some
    _ ≤ (most + 1) * ratio ^ quiet :=
        mul_le_mul_of_nonneg_right (le_add_of_nonneg_right zero_le_one) (pow_nonneg small quiet)
    _ < (most + 1) * (floor / (most + 1)) :=
        mul_lt_mul_of_pos_left few (add_pos_of_nonneg_of_pos some one_pos)
    _ = floor := mul_div_cancel₀ _ (add_pos_of_nonneg_of_pos some one_pos).ne'

end Fading

end M3Midi.Foundation
