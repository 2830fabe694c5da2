import M3Midi.Foundation.ByteCodec
import Mathlib.Algebra.Order.Field.Power
import Mathlib.Tactic.Linarith
import Mathlib.Tactic.NormNum
import Mathlib.Tactic.Positivity

/-! # Rounding to a double

The bits of a value below the overflow threshold are read as a double within half a
unit in the last place of the value (`M3Midi.Foundation.doubleOfBits_bitsOfDouble`).
The significand is rounded to the nearest integer; when it rounds up to the next
power of two, the carry goes into the exponent's bits and the double is the same.
-/

namespace M3Midi.Foundation

/-- A rounded number is off by at most a half. -/
theorem abs_roundHalfEven_sub_le (value : ℚ) : |(roundHalfEven value : ℚ) - value| ≤ 1 / 2 := by
  unfold roundHalfEven
  split_ifs with halfway
  · have half : (⌊value⌋ : ℚ) - value = -(1 / 2) := by
      have whole := Int.self_sub_floor value
      rw [halfway.1] at whole
      linarith
    rw [half]
    norm_num
  · rw [abs_sub_comm]
    exact abs_sub_round value

/-- Rounding does not pass an integer. -/
theorem roundHalfEven_le {value : ℚ} {bound : ℤ} (below : value ≤ bound) :
    roundHalfEven value ≤ bound := by
  have near := (abs_le.mp (abs_roundHalfEven_sub_le value)).2
  have less : (roundHalfEven value : ℚ) < bound + 1 := by linarith
  exact Int.lt_add_one_iff.mp (by exact_mod_cast less)

/-- A number above an integer is not rounded below it. -/
theorem le_roundHalfEven {value : ℚ} {bound : ℤ} (above : (bound : ℚ) ≤ value) :
    bound ≤ roundHalfEven value := by
  have near := (abs_le.mp (abs_roundHalfEven_sub_le value)).1
  have less : (bound : ℚ) < roundHalfEven value + 1 := by linarith
  exact Int.lt_add_one_iff.mp (by exact_mod_cast less)

/-- The magnitude of a double with these exponent and fraction bits. -/
def fieldsMagnitude (field fraction : Nat) : ℚ :=
  (if field = 0 then fraction else 2 ^ 52 + fraction : Nat) * (2 : ℚ) ^ ((max field 1 : Nat) - 1075 : ℤ)

/-- A finite double is read off the fields of its bits. -/
theorem doubleOfBits_fields {field fraction : Nat} (fits : fraction < 2 ^ 52)
    (finite : field < 2047) (negative : Prop) [Decidable negative] :
    doubleOfBits ((if negative then 2 ^ 63 else 0) + (field * 2 ^ 52 + fraction)) =
      some (if negative then -fieldsMagnitude field fraction else fieldsMagnitude field fraction) := by
  have low : ((if negative then 2 ^ 63 else 0) + (field * 2 ^ 52 + fraction)) % 2 ^ 52 =
      fraction := by
    split_ifs <;> omega
  have middle : ((if negative then 2 ^ 63 else 0) + (field * 2 ^ 52 + fraction)) / 2 ^ 52 %
      2 ^ 11 = field := by
    split_ifs <;> omega
  have sign : ((if negative then 2 ^ 63 else 0) + (field * 2 ^ 52 + fraction)) / 2 ^ 63 % 2 =
      if negative then 1 else 0 := by
    split_ifs <;> omega
  unfold doubleOfBits
  dsimp only
  rw [low, middle, sign, if_neg finite.ne]
  by_cases signed : negative
  · rw [if_pos signed, if_pos signed, if_pos rfl]
    rfl
  · rw [if_neg signed, if_neg signed, if_neg (by decide)]
    rfl

/-- A rounded significand, with the carry of a power of two, as bits of a double. -/
theorem significand_fields {exponent significand : ℤ} (least : -1022 ≤ exponent)
    (greatest : exponent ≤ 1022) (positive : 0 ≤ significand) (fits : significand ≤ 2 ^ 53)
    (normal : significand < 2 ^ 52 → exponent = -1022) :
    ∃ field fraction : Nat, field < 2047 ∧ fraction < 2 ^ 52 ∧
      ((exponent + 1022) * 2 ^ 52 + significand).toNat = field * 2 ^ 52 + fraction ∧
        fieldsMagnitude field fraction = significand * (2 : ℚ) ^ (exponent - 52) := by
  rcases lt_trichotomy significand (2 ^ 53) with less | carry | more
  · by_cases small : significand < 2 ^ 52
    · obtain rfl := normal small
      obtain ⟨fraction, rfl⟩ := Int.eq_ofNat_of_zero_le positive
      refine ⟨0, fraction, by omega, by omega, by omega, ?_⟩
      unfold fieldsMagnitude
      norm_num
    · obtain ⟨field, named⟩ := Int.eq_ofNat_of_zero_le (show 0 ≤ exponent + 1023 by omega)
      obtain ⟨fraction, split⟩ := Int.eq_ofNat_of_zero_le (show 0 ≤ significand - 2 ^ 52 by omega)
      obtain rfl : exponent = field - 1023 := by omega
      obtain rfl : significand = 2 ^ 52 + fraction := by omega
      have nonzero : field ≠ 0 := by omega
      refine ⟨field, fraction, by omega, by omega, by omega, ?_⟩
      unfold fieldsMagnitude
      rw [if_neg nonzero, max_eq_left (by omega)]
      push_cast
      congr 2
      ring
  · obtain ⟨field, named⟩ := Int.eq_ofNat_of_zero_le (show 0 ≤ exponent + 1024 by omega)
    obtain rfl : exponent = field - 1024 := by omega
    have nonzero : field ≠ 0 := by omega
    refine ⟨field, 0, by omega, by omega, by omega, ?_⟩
    unfold fieldsMagnitude
    rw [if_neg nonzero, max_eq_left (by omega), carry]
    have shifted : (field : ℤ) - 1075 = (field : ℤ) - 1024 - 52 + 1 := by ring
    rw [shifted, zpow_add_one₀ (by norm_num)]
    push_cast
    ring
  · omega

/-- The significand of a magnitude has fifty-three bits, fewer only in the least
binade, and stands for the magnitude up to half a unit. -/
theorem significand_bounds {magnitude : ℚ} {exponent : ℤ} (positive : 0 < magnitude)
    (named : max (Int.log 2 magnitude) (-1022) = exponent) :
    let significand := roundHalfEven (magnitude * (2 : ℚ) ^ (52 - exponent))
    0 ≤ significand ∧ significand ≤ 2 ^ 53 ∧ (significand < 2 ^ 52 → exponent = -1022) ∧
      |significand * (2 : ℚ) ^ (exponent - 52) - magnitude| ≤ (2 : ℚ) ^ (exponent - 53) := by
  intro significand
  have above : magnitude < (2 : ℚ) ^ (exponent + 1) := by
    refine (Int.lt_zpow_succ_log_self one_lt_two magnitude).trans_le ?_
    exact_mod_cast zpow_le_zpow_right₀ (one_le_two (α := ℚ)) (by omega)
  have scaled : magnitude * (2 : ℚ) ^ (52 - exponent) * (2 : ℚ) ^ (exponent - 52) = magnitude := by
    rw [mul_assoc, ← zpow_add₀ two_ne_zero, sub_add_sub_cancel, sub_self, zpow_zero, mul_one]
  refine ⟨le_roundHalfEven ?_, roundHalfEven_le ?_, fun small => ?_, ?_⟩
  · rw [Int.cast_zero]
    positivity
  · have power : (2 : ℚ) ^ (exponent + 1) * (2 : ℚ) ^ (52 - exponent) = ((2 ^ 53 : ℤ) : ℚ) := by
      rw [← zpow_add₀ two_ne_zero, show exponent + 1 + (52 - exponent) = 53 by ring]
      norm_num
    rw [← power]
    gcongr
  · by_contra other
    have logarithm : Int.log 2 magnitude = exponent := by omega
    have power : (2 : ℚ) ^ exponent * (2 : ℚ) ^ (52 - exponent) = ((2 ^ 52 : ℤ) : ℚ) := by
      rw [← zpow_add₀ two_ne_zero, show exponent + (52 - exponent) = 52 by ring]
      norm_num
    have below : (2 : ℚ) ^ exponent ≤ magnitude := by
      rw [← logarithm]
      exact_mod_cast Int.zpow_log_le_self one_lt_two positive
    have full : ((2 ^ 52 : ℤ) : ℚ) ≤ magnitude * (2 : ℚ) ^ (52 - exponent) := by
      rw [← power]
      gcongr
    exact absurd (le_roundHalfEven full) (not_le.mpr small)
  · have half : (2 : ℚ) ^ (exponent - 53) = 1 / 2 * (2 : ℚ) ^ (exponent - 52) := by
      rw [show exponent - 52 = exponent - 53 + 1 by ring, zpow_add_one₀ two_ne_zero]
      ring
    have unit : (0 : ℚ) < (2 : ℚ) ^ (exponent - 52) := by positivity
    calc |significand * (2 : ℚ) ^ (exponent - 52) - magnitude|
        = |(significand - magnitude * (2 : ℚ) ^ (52 - exponent)) * (2 : ℚ) ^ (exponent - 52)| := by
          rw [sub_mul, scaled]
      _ = |significand - magnitude * (2 : ℚ) ^ (52 - exponent)| * (2 : ℚ) ^ (exponent - 52) := by
          rw [abs_mul, abs_of_pos unit]
      _ ≤ 1 / 2 * (2 : ℚ) ^ (exponent - 52) := by
          gcongr
          exact abs_roundHalfEven_sub_le _
      _ = (2 : ℚ) ^ (exponent - 53) := half.symm

/-- The bits of a value fit a double's word and are read as a double near the value. -/
theorem doubleOfBits_bitsOfDouble {value : ℚ} (bounded : |value| < (2 : ℚ) ^ (1023 : ℤ)) :
    bitsOfDouble value < 2 ^ 64 ∧ ∃ near, doubleOfBits (bitsOfDouble value) = some near ∧
      |near - value| ≤ (2 : ℚ) ^ (max (Int.log 2 |value|) (-1022) - 53) := by
  by_cases zero : value = 0
  · subst zero
    refine ⟨by simp [bitsOfDouble], 0, by simp [bitsOfDouble, doubleOfBits], ?_⟩
    rw [sub_zero, abs_zero]
    positivity
  · have size : 0 < |value| := abs_pos.mpr zero
    obtain ⟨exponent, named⟩ : ∃ exponent, max (Int.log 2 |value|) (-1022) = exponent := ⟨_, rfl⟩
    have greatest : exponent ≤ 1022 := by
      have logarithm : Int.log 2 |value| < 1023 := by
        refine (Int.lt_zpow_iff_log_lt one_lt_two size).mp ?_
        rwa [Nat.cast_ofNat]
      omega
    obtain ⟨lower, upper, normal, near⟩ := significand_bounds size named
    obtain ⟨field, fraction, finite, fits, bits, magnitude⟩ := significand_fields (by omega)
      greatest lower upper normal
    have written : bitsOfDouble value =
        (if value < 0 then 2 ^ 63 else 0) + (field * 2 ^ 52 + fraction) := by
      unfold bitsOfDouble
      dsimp only
      rw [if_neg zero, named, bits]
    rw [← magnitude] at near
    rw [written, doubleOfBits_fields fits finite, named]
    refine ⟨by split_ifs <;> omega, _, rfl, ?_⟩
    split_ifs with negative
    · rwa [abs_of_neg negative, sub_neg_eq_add, ← abs_neg, neg_add'] at near
    · rwa [abs_of_nonneg (not_lt.mp negative)] at near

/-- Rounding leaves an integer alone. -/
theorem roundHalfEven_intCast (value : ℤ) : roundHalfEven value = value :=
  le_antisymm (roundHalfEven_le le_rfl) (le_roundHalfEven le_rfl)

/-- The exponent and the significand of a double's magnitude are those of its bits. Normal and
subnormal numbers are told apart by the field of the exponent. -/
theorem log_fieldsMagnitude {field fraction : Nat} (fits : fraction < 2 ^ 52)
    (nonzero : fieldsMagnitude field fraction ≠ 0) :
    max (Int.log 2 (fieldsMagnitude field fraction)) (-1022) = (max field 1 : Nat) - 1023 := by
  have positive : 0 < fieldsMagnitude field fraction := by
    refine lt_of_le_of_ne ?_ nonzero.symm
    unfold fieldsMagnitude
    positivity
  have cast_two : ((2 : ℕ) : ℚ) = 2 := Nat.cast_ofNat
  by_cases subnormal : field = 0
  · subst subnormal
    have small : fieldsMagnitude 0 fraction < (2 : ℚ) ^ (-1022 : ℤ) := by
      have few : ((fraction : ℕ) : ℚ) < 2 ^ 52 := by exact_mod_cast fits
      have power : (2 : ℚ) ^ (-1022 : ℤ) = 2 ^ 52 * (2 : ℚ) ^ (-1074 : ℤ) := by
        rw [← zpow_natCast, ← zpow_add₀ two_ne_zero]
        norm_num
      rw [power]
      change (fraction : ℚ) * (2 : ℚ) ^ (-1074 : ℤ) < _
      gcongr
    have below : Int.log 2 (fieldsMagnitude 0 fraction) < -1022 := by
      refine (Int.lt_zpow_iff_log_lt one_lt_two positive).mp ?_
      rwa [cast_two]
    rw [max_eq_right below.le]
    rfl
  · have whole : fieldsMagnitude field fraction =
        ((2 ^ 52 + fraction : Nat) : ℚ) * (2 : ℚ) ^ ((field : ℤ) - 1075) := by
      unfold fieldsMagnitude
      rw [if_neg subnormal, max_eq_left (Nat.one_le_iff_ne_zero.mpr subnormal)]
    have unit : (0 : ℚ) < (2 : ℚ) ^ ((field : ℤ) - 1075) := by positivity
    have lower : (2 : ℚ) ^ ((field : ℤ) - 1023) ≤ fieldsMagnitude field fraction := by
      rw [whole, show (field : ℤ) - 1023 = 52 + (field - 1075) by ring, zpow_add₀ two_ne_zero]
      refine mul_le_mul_of_nonneg_right ?_ unit.le
      push_cast
      have nonnegative : (0 : ℚ) ≤ fraction := Nat.cast_nonneg _
      norm_num
    have upper : fieldsMagnitude field fraction < (2 : ℚ) ^ ((field : ℤ) - 1022) := by
      rw [whole, show (field : ℤ) - 1022 = 53 + (field - 1075) by ring, zpow_add₀ two_ne_zero]
      refine mul_lt_mul_of_pos_right ?_ unit
      have few : ((fraction : ℕ) : ℚ) < 2 ^ 52 := by exact_mod_cast fits
      push_cast
      linarith
    have atLeast : (field : ℤ) - 1023 ≤ Int.log 2 (fieldsMagnitude field fraction) := by
      refine (Int.zpow_le_iff_le_log one_lt_two positive).mp ?_
      rwa [cast_two]
    have atMost : Int.log 2 (fieldsMagnitude field fraction) < (field : ℤ) - 1022 := by
      refine (Int.lt_zpow_iff_log_lt one_lt_two positive).mp ?_
      rwa [cast_two]
    rw [max_eq_left (by omega), max_eq_left (Nat.one_le_iff_ne_zero.mpr subnormal)]
    omega

/-- What bits stand for is written as those bits, but for a zero's sign. -/
theorem bitsOfDouble_fields {value : ℚ} {field fraction : Nat} (fits : fraction < 2 ^ 52)
    (magnitude : |value| = fieldsMagnitude field fraction) (nonzero : value ≠ 0) :
    bitsOfDouble value = (if value < 0 then 2 ^ 63 else 0) + (field * 2 ^ 52 + fraction) := by
  have exponent := log_fieldsMagnitude fits (magnitude ▸ abs_ne_zero.mpr nonzero)
  unfold bitsOfDouble
  dsimp only
  rw [if_neg nonzero, magnitude, exponent]
  congr 1
  have significand : fieldsMagnitude field fraction *
      (2 : ℚ) ^ (52 - (((max field 1 : Nat) : ℤ) - 1023)) =
        (((if field = 0 then fraction else 2 ^ 52 + fraction : Nat) : ℤ) : ℚ) := by
    unfold fieldsMagnitude
    rw [mul_assoc, ← zpow_add₀ two_ne_zero, show ((max field 1 : Nat) : ℤ) - 1075 +
      (52 - (((max field 1 : Nat) : ℤ) - 1023)) = 0 by ring, zpow_zero, mul_one]
    exact (Int.cast_natCast _).symm
  rw [significand, roundHalfEven_intCast]
  split_ifs with subnormal
  · subst subnormal
    omega
  · rw [max_eq_left (Nat.one_le_iff_ne_zero.mpr subnormal)]
    omega

/-- What bits stand for is a double: it is read again from the bits it is written as. -/
theorem doubleOfBits_bitsOfDouble_doubleOfBits {bits : Nat} {value : ℚ}
    (read : doubleOfBits bits = some value) :
    bitsOfDouble value < 2 ^ 64 ∧ doubleOfBits (bitsOfDouble value) = some value := by
  by_cases zero : value = 0
  · subst zero
    exact ⟨by simp [bitsOfDouble], by simp [bitsOfDouble, doubleOfBits]⟩
  · have fits : bits % 2 ^ 52 < 2 ^ 52 := Nat.mod_lt _ (by decide)
    have finite : bits / 2 ^ 52 % 2 ^ 11 < 2047 := by
      refine lt_of_le_of_ne (by omega) fun infinite => ?_
      unfold doubleOfBits at read
      exact absurd ((if_pos infinite).symm.trans read) (by simp)
    have named : value = if bits / 2 ^ 63 % 2 = 1 then
        -fieldsMagnitude (bits / 2 ^ 52 % 2 ^ 11) (bits % 2 ^ 52)
        else fieldsMagnitude (bits / 2 ^ 52 % 2 ^ 11) (bits % 2 ^ 52) := by
      unfold doubleOfBits at read
      exact (Option.some.inj ((if_neg finite.ne).symm.trans read)).symm
    have positive : 0 ≤ fieldsMagnitude (bits / 2 ^ 52 % 2 ^ 11) (bits % 2 ^ 52) := by
      unfold fieldsMagnitude
      positivity
    have magnitude : |value| = fieldsMagnitude (bits / 2 ^ 52 % 2 ^ 11) (bits % 2 ^ 52) := by
      rw [named]
      split_ifs
      · rw [abs_neg, abs_of_nonneg positive]
      · exact abs_of_nonneg positive
    rw [bitsOfDouble_fields fits magnitude zero, doubleOfBits_fields fits finite, ← magnitude]
    refine ⟨by split_ifs <;> omega, congrArg some ?_⟩
    split_ifs with negative
    · rw [abs_of_neg negative, neg_neg]
    · exact abs_of_nonneg (not_lt.mp negative)

end M3Midi.Foundation
