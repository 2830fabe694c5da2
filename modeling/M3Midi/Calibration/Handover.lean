import M3Midi.Calibration.BankTransport
import M3Midi.Calibration.StateImage

/-! # Which banks survive the transport

A valid bank comes out of the transport as it went in exactly when none of its
points has a valid partial detuning, and only while the sequence has room for
another publish. Whatever comes out is valid again.
-/

namespace M3Midi

open Foundation

/-- No point of the bank has a valid partial detuning. -/
def Undetuned (bank : StringCalibrationBank) : Prop :=
  ∀ string fret, (bank.points string fret).partialDetuningValidMask = 0

/-- Whether a bank has no detunings can be computed. -/
instance (bank : StringCalibrationBank) : Decidable (Undetuned bank) := by
  unfold Undetuned
  infer_instance

variable {bank factory overrides : StringCalibrationBank} {point : StringCalibrationPoint}

/-- A bank is valid if its points are, and if the strings with points are those that are marked. -/
theorem validBank_iff :
    validBank bank = true ↔ ∀ string fret, validPoint (bank.points string fret) = true ∧
      bank.stringCalibrated string = decide ((bank.points string fret).quality ≠ .missing) := by
  simp [validBank]

/-- Where no detuning is valid, all of them are zero. -/
theorem withoutDetunings_eq (valid : validPoint point = true)
    (undetuned : point.partialDetuningValidMask = 0) : withoutDetunings point = point := by
  have zero : point.partialDetuningQ8 = fun _ => 0 := by
    funext harmonic
    unfold validPoint at valid
    simp only [Bool.and_eq_true, List.all_eq_true] at valid
    have checked := valid.1.2 harmonic (List.mem_finRange harmonic)
    unfold validDetuning at checked
    simp only [undetuned, Bool.and_eq_true, Bool.or_eq_true, decide_eq_true_eq] at checked
    have integral : (point.partialDetuningQ8 harmonic).toInt = 0 :=
      checked.2.resolve_left (by simp)
    exact BitVec.eq_of_toInt_eq integral
  exact StringCalibrationPoint.mk.injEq .. |>.mpr
    ⟨rfl, rfl, zero.symm, undetuned.symm, rfl, rfl, rfl⟩

/-- A valid bank comes through the transport unchanged exactly if it has no detunings. -/
theorem transported_eq_iff (valid : validBank bank = true) :
    transported bank = bank ↔ Undetuned bank := by
  constructor
  · intro same string fret
    exact congrArg (fun bank => (bank.points string fret).partialDetuningValidMask) same.symm
  · intro undetuned
    refine StringCalibrationBank.mk.injEq .. |>.mpr ⟨?_, rfl⟩
    funext string fret
    exact withoutDetunings_eq (validBank_iff.mp valid string fret).1 (undetuned string fret)

/-- The transport loses no more the second time. -/
theorem transported_transported (bank : StringCalibrationBank) :
    transported (transported bank) = transported bank := rfl

/-- The bank without points is valid. -/
theorem validBank_empty : validBank {} = true := by decide +kernel

/-- The factory's bank is valid, whatever its image. -/
theorem validBank_factory (image : List Byte) : validBank (factoryCalibrationBank image) = true := by
  unfold factoryCalibrationBank
  cases decoded : decodeCalibrationState image with
  | none => exact validBank_empty
  | some bank =>
      unfold decodeCalibrationState at decoded
      dsimp only at decoded
      split_ifs at decoded
      exact (Option.filter_eq_some_iff.mp decoded).2

/-- What is read from an image is a valid bank. -/
theorem decodeCalibrationState_valid {image : List Byte}
    (decoded : decodeCalibrationState image = some bank) : validBank bank = true := by
  have factory := validBank_factory image
  unfold factoryCalibrationBank at factory
  rwa [decoded] at factory

/-- A merge takes each string from one valid bank or the other. -/
theorem validBank_merge (factoryValid : validBank factory = true)
    (overridesValid : validBank overrides = true) :
    validBank (mergeFactoryCalibration factory overrides) = true := by
  rw [validBank_iff] at factoryValid overridesValid ⊢
  intro string fret
  have calibrated : (mergeFactoryCalibration factory overrides).stringCalibrated string =
      (factory.stringCalibrated string || overrides.stringCalibrated string) :=
    BitVec.getLsbD_or
  by_cases overridden : overrides.stringCalibrated string = true
  · have points : (mergeFactoryCalibration factory overrides).points string fret =
        overrides.points string fret := by
      simp [mergeFactoryCalibration, overridden]
    rw [points, calibrated, overridden, Bool.or_true]
    exact overridden ▸ overridesValid string fret
  · rw [Bool.not_eq_true] at overridden
    have points : (mergeFactoryCalibration factory overrides).points string fret =
        factory.points string fret := by
      simp [mergeFactoryCalibration, overridden]
    rw [points, calibrated, overridden, Bool.or_false]
    exact factoryValid string fret

namespace CalibrationBankTransport

/-- A publish goes on to the next even value but one, and wraps. -/
theorem nextSequence_value (before : BitVec 32) :
    (nextSequence before).toNat = (before.toNat / 2 * 2 + 2) % 2 ^ 32 := by
  have value : (nextSequence before).toNat = ((before.toNat ||| 1) + 1) % 2 ^ 32 := rfl
  have odd : (before.toNat ||| 1) % 2 = 1 := Nat.or_mod_two_eq_one.mpr (.inr rfl)
  have half : (before.toNat ||| 1) / 2 = before.toNat / 2 := by
    rw [Nat.or_div_two]
    exact Nat.or_zero _
  rw [value]
  omega

/-- The sequence comes back to zero only from the last two values. -/
theorem nextSequence_ne_zero_iff {before : BitVec 32} :
    nextSequence before ≠ 0 ↔ before.toNat < 2 ^ 32 - 2 := by
  have small := before.isLt
  rw [ne_eq, ← BitVec.toNat_inj, nextSequence_value]
  change ¬ _ = 0 ↔ _
  omega

/-- From an even sequence with room, a publish adds two. -/
theorem nextSequence_toNat {before : BitVec 32} (even : before.toNat % 2 = 0)
    (room : before.toNat < 2 ^ 32 - 2) : (nextSequence before).toNat = before.toNat + 2 := by
  rw [nextSequence_value]
  omega

variable {transport : CalibrationBankTransport} {generation : BitVec 32}

@[simp] theorem publish_sequence :
    transport.publish bank generation .sequence = nextSequence (transport .sequence) := by
  rw [publish_eq]

/-- With room in the sequence, a reader obtains the transported bank. -/
theorem readLatest_publish_room (room : (transport .sequence).toNat < 2 ^ 32 - 2) :
    (transport.publish bank generation).readLatest =
      some { bank := transported bank, generation } := by
  rw [readLatest_publish, if_neg (nextSequence_ne_zero_iff.mpr room)]

/-- A reader obtains the published bank exactly when it has no valid detuning and
the sequence has room. -/
theorem readLatest_publish_iff (valid : validBank bank = true) :
    (transport.publish bank generation).readLatest = some { bank, generation } ↔
      Undetuned bank ∧ (transport .sequence).toNat < 2 ^ 32 - 2 := by
  rw [readLatest_publish]
  split_ifs with returned
  · have full := mt nextSequence_ne_zero_iff.mpr (not_not.mpr returned)
    exact iff_of_false (by simp) (fun kept => full kept.2)
  · have room := nextSequence_ne_zero_iff.mp returned
    rw [Option.some_inj, CalibrationBankSnapshot.mk.injEq, transported_eq_iff valid,
      and_iff_left rfl, and_iff_left room]

end CalibrationBankTransport

end M3Midi
