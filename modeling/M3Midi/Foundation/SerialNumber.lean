import Mathlib.Data.BitVec

/-! # Serial numbers

Serial numbers count on a circle of machine words. One is newer than another
when it lies less than half the circle ahead. Over the whole circle this is no
order, but among the numbers that lie less than half the circle ahead of a
common base it is the order of their distances from the base
(`M3Midi.Foundation.SerialNumber.newer_iff`).
-/

namespace M3Midi.Foundation.SerialNumber

variable {w : Nat}

/-- Less than half the circle ahead, and not the same number. -/
def newer (candidate reference : BitVec w) : Bool :=
  (candidate - reference).toNat ≠ 0 && (candidate - reference).toNat < 2 ^ (w - 1)

/-- How far a number lies ahead of the base. -/
def distance (base number : BitVec w) : Nat := (number - base).toNat

/-- The numbers less than half the circle ahead of the base. -/
def InWindow (base number : BitVec w) : Prop := distance base number < 2 ^ (w - 1)

/-- Whether a number lies in a window can be computed. -/
instance (base number : BitVec w) : Decidable (InWindow base number) :=
  inferInstanceAs (Decidable (distance base number < 2 ^ (w - 1)))

/-- No number is newer than itself. -/
theorem not_newer_self (number : BitVec w) : newer number number = false := by
  simp [newer]

/-- A number has no distance from itself. -/
theorem distance_self (base : BitVec w) : distance base base = 0 := by
  simp [distance]

/-- Distances from one base tell numbers apart. -/
theorem distance_inj {base first second : BitVec w}
    (same : distance base first = distance base second) : first = second := by
  have shifted : first - base = second - base := BitVec.eq_of_toNat_eq same
  calc
    first = first - base + base := (BitVec.sub_add_cancel first base).symm
    _ = second - base + base := by rw [shifted]
    _ = second := BitVec.sub_add_cancel second base

/-- The next number lies one step farther ahead. -/
theorem distance_add_one {base number : BitVec w} (room : distance base number + 1 < 2 ^ w) :
    distance base (number + 1) = distance base number + 1 := by
  unfold distance at room ⊢
  have shifted : number + 1 - base = (number - base) + 1 := by
    rw [BitVec.sub_eq_add_neg, BitVec.sub_eq_add_neg, BitVec.add_assoc, BitVec.add_assoc,
      BitVec.add_comm 1]
  have one : BitVec.toNat (1 : BitVec w) = 1 :=
    Nat.mod_eq_of_lt (lt_of_le_of_lt (Nat.le_add_left 1 _) room)
  rw [shifted, BitVec.toNat_add, one, Nat.mod_eq_of_lt room]

/-- The difference of two numbers, from their distances to a base. -/
private theorem toNat_sub_eq (base candidate reference : BitVec w) :
    (candidate - reference).toNat =
      (2 ^ w - distance base reference + distance base candidate) % 2 ^ w := by
  rw [← sub_sub_sub_cancel_right candidate reference base, BitVec.toNat_sub]
  rfl

/-- Among the numbers of one window, newer is farther from the base. -/
theorem newer_iff {base candidate reference : BitVec w} (positive : 0 < w)
    (first : InWindow base candidate) (second : InWindow base reference) :
    newer candidate reference = true ↔ distance base reference < distance base candidate := by
  have half : 2 ^ w = 2 * 2 ^ (w - 1) := by
    rw [← Nat.pow_succ', Nat.succ_eq_add_one, Nat.sub_add_cancel positive]
  unfold InWindow at first second
  simp only [newer, Bool.and_eq_true, decide_eq_true_eq]
  rw [toNat_sub_eq base candidate reference]
  rcases Nat.lt_or_ge (distance base reference) (distance base candidate) with ahead | behind
  · have wrapped : (2 ^ w - distance base reference + distance base candidate) % 2 ^ w =
        distance base candidate - distance base reference := by
      rw [show 2 ^ w - distance base reference + distance base candidate =
        (distance base candidate - distance base reference) + 2 ^ w by omega,
        Nat.add_mod_right, Nat.mod_eq_of_lt (by omega)]
    rw [wrapped]
    omega
  · rcases Nat.eq_or_lt_of_le behind with same | behind
    · have wrapped : (2 ^ w - distance base reference + distance base candidate) % 2 ^ w = 0 := by
        rw [same, Nat.sub_add_cancel (by omega), Nat.mod_self]
      rw [wrapped]
      omega
    · rw [Nat.mod_eq_of_lt (by omega)]
      omega

end M3Midi.Foundation.SerialNumber
