import Mathlib.Algebra.BigOperators.Fin
import Mathlib.Data.Fintype.Card

/-! # Bit masks as sets of lanes

A fixed-width mask names the set of its lanes. The bitwise operations are the
operations on these sets, the tests against zero are inclusion and disjointness,
and the loop that counts set bits is the cardinality.
-/

namespace M3Midi.Foundation.LaneMask

variable {w : Nat}

/-- The lanes that a mask holds. -/
def lanes (mask : BitVec w) : Finset (Fin w) :=
  Finset.univ.filter fun lane => mask[(lane : Nat)] = true

/-- The lanes of a mask are its set bits. -/
@[simp] theorem mem_lanes {mask : BitVec w} {lane : Fin w} :
    lane ∈ lanes mask ↔ mask[(lane : Nat)] = true := by
  rw [lanes, Finset.mem_filter]
  exact and_iff_right (Finset.mem_univ lane)

theorem mem_lanes_iff_getLsbD {mask : BitVec w} {lane : Fin w} :
    lane ∈ lanes mask ↔ mask.getLsbD lane = true := by
  rw [mem_lanes, BitVec.getLsbD_eq_getElem]

/-- A mask is known by its lanes. -/
theorem lanes_injective : Function.Injective (lanes : BitVec w → Finset (Fin w)) := by
  intro first second same
  apply BitVec.eq_of_getElem_eq
  intro position bounded
  have member : (⟨position, bounded⟩ : Fin w) ∈ lanes first ↔
      (⟨position, bounded⟩ : Fin w) ∈ lanes second := by rw [same]
  rw [mem_lanes, mem_lanes] at member
  exact Bool.eq_iff_iff.mpr member

/-- The empty mask has no lanes. -/
@[simp] theorem lanes_zero : lanes (0 : BitVec w) = ∅ := by
  ext lane
  simp

/-- The conjunction of masks is the intersection of their lanes. -/
@[simp] theorem lanes_and (first second : BitVec w) :
    lanes (first &&& second) = lanes first ∩ lanes second := by
  ext lane
  simp

/-- The disjunction of masks is the union of their lanes. -/
@[simp] theorem lanes_or (first second : BitVec w) :
    lanes (first ||| second) = lanes first ∪ lanes second := by
  ext lane
  simp

/-- The complement of a mask has the other lanes. -/
@[simp] theorem lanes_not (mask : BitVec w) : lanes (~~~mask) = (lanes mask)ᶜ := by
  ext lane
  simp

/-- The mask of one lane. -/
def single (lane : Nat) : BitVec w := 1#w <<< lane

/-- The mask of one lane has that bit only. -/
theorem getElem_single {lane position : Nat} (bounded : position < w) :
    (single lane : BitVec w)[position] = decide (position = lane) := by
  rw [single, BitVec.getElem_shiftLeft]
  by_cases before : position < lane
  · simp [before, Nat.ne_of_lt before]
  · rw [BitVec.getElem_one]
    simp only [before, decide_false, Bool.not_false, Bool.true_and, decide_eq_decide]
    omega

/-- The mask of one lane has that lane only. -/
@[simp] theorem lanes_single (lane : Fin w) : lanes (single lane : BitVec w) = {lane} := by
  ext other
  rw [mem_lanes, getElem_single, Finset.mem_singleton, Fin.ext_iff, decide_eq_true_eq]

/-- Only the empty mask has no lanes. -/
theorem lanes_eq_empty {mask : BitVec w} : lanes mask = ∅ ↔ mask = 0 := by
  rw [← lanes_zero, lanes_injective.eq_iff]

/-- No lane of the first mask is outside the second. -/
theorem and_not_eq_zero {first second : BitVec w} :
    first &&& ~~~second = 0 ↔ lanes first ⊆ lanes second := by
  rw [← lanes_eq_empty, lanes_and, lanes_not, ← Finset.disjoint_iff_inter_eq_empty,
    disjoint_compl_right_iff]

/-- Masks whose conjunction is empty have disjoint lanes. -/
theorem and_eq_zero {first second : BitVec w} :
    first &&& second = 0 ↔ Disjoint (lanes first) (lanes second) := by
  rw [← lanes_eq_empty, lanes_and, Finset.disjoint_iff_inter_eq_empty]

/-- Add up the bits from the lowest one until nothing is left. -/
def countFrom : Nat → BitVec w → Nat
  | 0, _ => 0
  | bits + 1, mask =>
      if mask = 0 then 0 else (mask &&& 1).toNat + countFrom bits (mask >>> 1)

/-- The number of set bits. -/
def count (mask : BitVec w) : Nat := countFrom w mask

/-- The lowest bit of a mask, as a number. -/
private theorem toNat_and_one (mask : BitVec w) :
    (mask &&& 1).toNat = if mask.getLsbD 0 then 1 else 0 := by
  rcases w with _ | width
  · rw [BitVec.eq_nil mask]
    rfl
  · have one : (1 : BitVec (width + 1)).toNat = 1 := Nat.mod_eq_of_lt (Nat.one_lt_two_pow_iff.mpr
      (Nat.succ_ne_zero width))
    rw [BitVec.toNat_and, one, Nat.and_one_is_mod, BitVec.getLsbD, Nat.testBit_zero]
    rcases Nat.mod_two_eq_zero_or_one mask.toNat with even | odd
    · simp [even]
    · simp [odd]

/-- The loop over the bits counts those that are set. -/
theorem countFrom_eq (bits : Nat) (mask : BitVec w) :
    countFrom bits mask = ∑ position ∈ Finset.range bits, if mask.getLsbD position then 1 else 0 := by
  induction bits generalizing mask with
  | zero => rfl
  | succ bits tail =>
      rw [countFrom, Finset.sum_range_succ', tail, toNat_and_one]
      by_cases nothing : mask = 0
      · simp [nothing]
      · simp only [nothing, if_false, BitVec.getLsbD_ushiftRight, Nat.add_comm 1]
        exact Nat.add_comm _ _

/-- Counting bits is counting lanes. -/
theorem count_eq (mask : BitVec w) : count mask = (lanes mask).card := by
  rw [count, countFrom_eq, lanes, Finset.card_filter,
    ← Fin.sum_univ_eq_sum_range fun position => if mask.getLsbD position then 1 else 0]
  exact Finset.sum_congr rfl fun lane _ => by rw [BitVec.getLsbD_eq_getElem lane.isLt]

end M3Midi.Foundation.LaneMask
