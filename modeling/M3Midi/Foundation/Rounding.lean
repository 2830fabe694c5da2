import Mathlib.Algebra.Order.Floor.Ring
import Mathlib.Data.Rat.Floor

/-! # Rounding to the nearest integer

Rounding half away from zero stays between any integers that bound the number, and so
does a weighted mean of two numbers.
-/

namespace M3Midi.Foundation

variable {Number : Type*} [Field Number] [LinearOrder Number] [IsStrictOrderedRing Number]
  [FloorRing Number]

/-- The nearest integer, half away from zero. -/
def roundAway (value : Number) : ℤ :=
  if 0 ≤ value then ⌊value + 1 / 2⌋ else -⌊-value + 1 / 2⌋

/-- A number below an integer is not rounded above it. -/
theorem roundAway_le {value : Number} {bound : ℤ} (below : value ≤ bound) :
    roundAway value ≤ bound := by
  unfold roundAway
  split_ifs with positive
  · rw [← Int.lt_add_one_iff, Int.floor_lt]
    push_cast
    linarith
  · rw [neg_le, Int.le_floor]
    push_cast
    linarith

/-- A number above an integer is not rounded below it. -/
theorem le_roundAway {value : Number} {bound : ℤ} (above : bound ≤ value) :
    bound ≤ roundAway value := by
  unfold roundAway
  split_ifs with positive
  · rw [Int.le_floor]
    linarith
  · rw [le_neg, ← Int.lt_add_one_iff, Int.floor_lt]
    push_cast
    linarith

/-- A number that is clamped between integers is rounded between them. -/
theorem roundAway_mem {value : Number} {low high : ℤ} (above : low ≤ value) (below : value ≤ high) :
    low ≤ roundAway value ∧ roundAway value ≤ high :=
  ⟨le_roundAway above, roundAway_le below⟩

omit [FloorRing Number] in
/-- A weighted mean lies between bounds of its two numbers. -/
theorem weighted_mem {first second low high weight : Number} (unit : 0 ≤ weight ∧ weight ≤ 1)
    (one : low ≤ first ∧ first ≤ high) (two : low ≤ second ∧ second ≤ high) :
    low ≤ first * (1 - weight) + second * weight ∧
      first * (1 - weight) + second * weight ≤ high := by
  obtain ⟨positive, atMost⟩ := unit
  have rest : 0 ≤ 1 - weight := sub_nonneg.mpr atMost
  constructor
  · calc low = low * (1 - weight) + low * weight := by ring
      _ ≤ first * (1 - weight) + second * weight := by
        gcongr
        · exact one.1
        · exact two.1
  · calc first * (1 - weight) + second * weight ≤ high * (1 - weight) + high * weight := by
          gcongr
          · exact one.2
          · exact two.2
      _ = high := by ring

end M3Midi.Foundation
