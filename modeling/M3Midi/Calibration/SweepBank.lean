import M3Midi.Calibration.Handover
import M3Midi.Calibration.SweepCalibrator

/-! # The bank of a sweep can always be saved

What the calibrator quantizes stays within the bounds of a saved point: numbers are clamped
before they are rounded, and a weighted mean of two points lies between them. A sweep ends
either without a bank of its own or with a point for each fret of its string, so that the
bank stays valid whatever is observed (`M3Midi.SweepCalibrator.sweep_bank_savable`).
-/

namespace M3Midi

open Foundation Foundation.MaskSweep Foundation.LaneMask

/-! ## Quantized numbers -/

section Quantized

/-- A number that has been clamped lies between ordered bounds. -/
theorem clampTo_mem {low high : ℚ} (ordered : low ≤ high) (value : ℚ) :
    low ≤ clampTo low high value ∧ clampTo low high value ≤ high :=
  ⟨le_max_left _ _, max_le ordered (min_le_left _ _)⟩

/-- Sixteen bits hold every integer between the bounds of a signed number. -/
theorem toInt_ofInt_mem {value : ℤ} (within : -maximumCentsQ8 ≤ value ∧ value ≤ maximumCentsQ8) :
    (BitVec.ofInt 16 value).toInt = value := by
  obtain ⟨above, below⟩ := within
  unfold maximumCentsQ8 at above below
  refine BitVec.toInt_ofInt_eq_self (Nat.zero_lt_succ 15) ?_ ?_
  · norm_num
    omega
  · norm_num
    omega

/-- A value of the Q15 range passes through a sixteen-bit word unchanged. -/
theorem toNat_ofInt_mem {value : ℤ} (within : 0 ≤ value ∧ value ≤ maximumQ15) :
    ((BitVec.ofInt 16 value).toNat : ℤ) = value := by
  obtain ⟨above, below⟩ := within
  unfold maximumQ15 at below
  rw [BitVec.toNat_ofInt]
  omega

/-- Packed cents are at most fifty in either direction, whatever the offset was. -/
theorem centsQ8_mem (value : ℚ) :
    -maximumCentsQ8 ≤ (centsQ8 value).toInt ∧ (centsQ8 value).toInt ≤ maximumCentsQ8 := by
  obtain ⟨above, below⟩ := @clampTo_mem (-50) 50 (by norm_num) value
  have within : -maximumCentsQ8 ≤ roundAway (clampTo (-50) 50 value * 256) ∧
      roundAway (clampTo (-50) 50 value * 256) ≤ maximumCentsQ8 := by
    refine roundAway_mem ?_ ?_
    · rw [maximumCentsQ8]
      push_cast
      linarith
    · rw [maximumCentsQ8]
      push_cast
      linarith
  rw [centsQ8, toInt_ofInt_mem within]
  exact within

/-- A packed fraction does not exceed the greatest one. -/
theorem q15_le (value : ℚ) : (q15 value).toNat ≤ maximumQ15 := by
  obtain ⟨above, below⟩ := @clampTo_mem 0 1 (by norm_num) value
  have within : 0 ≤ roundAway (clampTo 0 1 value * 32767) ∧
      roundAway (clampTo 0 1 value * 32767) ≤ (maximumQ15 : ℤ) := by
    refine roundAway_mem ?_ ?_
    · push_cast
      linarith
    · rw [maximumQ15]
      push_cast
      linarith
  have exact := toNat_ofInt_mem within
  rw [q15]
  omega

/-- A rounded mean of two integers stays between bounds of both. -/
theorem roundAway_weighted_mem {low high left right : ℤ} {amount : ℚ}
    (unit : 0 ≤ amount ∧ amount ≤ 1) (one : low ≤ left ∧ left ≤ high)
    (two : low ≤ right ∧ right ≤ high) :
    low ≤ roundAway ((left : ℚ) * (1 - amount) + right * amount) ∧
      roundAway ((left : ℚ) * (1 - amount) + right * amount) ≤ high := by
  have between := @weighted_mem ℚ _ _ _ left right low high amount unit
    ⟨Int.cast_le.mpr one.1, Int.cast_le.mpr one.2⟩ ⟨Int.cast_le.mpr two.1, Int.cast_le.mpr two.2⟩
  exact roundAway_mem between.1 between.2

end Quantized

/-! ## The points of a string -/

section Points

variable {valid : Fin calibrationHarmonicCount → Bool}

/-- The lanes of the packed mask are the valid harmonics. -/
theorem mem_lanes_harmonicMask {lane : Fin 8} :
    lane ∈ lanes (harmonicMask valid) ↔
      ∃ harmonic, valid harmonic = true ∧ Fin.castAdd 2 harmonic = lane := by
  rw [harmonicMask, lanes_maskOf, List.mem_toFinset, List.mem_map]
  simp only [List.mem_filter, List.mem_finRange, true_and]

/-- The bit of a harmonic in the packed mask says whether it is valid. -/
theorem getLsbD_harmonicMask (harmonic : Fin calibrationHarmonicCount) :
    (harmonicMask valid).getLsbD harmonic = valid harmonic := by
  have member := @mem_lanes_harmonicMask valid (Fin.castAdd 2 harmonic)
  rw [mem_lanes, ← BitVec.getLsbD_eq_getElem] at member
  rw [Bool.eq_iff_iff]
  refine member.trans ⟨?_, fun holds => ⟨harmonic, holds, rfl⟩⟩
  rintro ⟨other, holds, same⟩
  rwa [Fin.castAdd_inj.mp same] at holds

/-- No bit beyond the harmonics is set. -/
theorem harmonicMask_high (valid : Fin calibrationHarmonicCount → Bool) :
    harmonicMask valid &&& 0xC0 = 0 := by
  rw [LaneMask.and_eq_zero, Finset.disjoint_left]
  intro lane member high
  obtain ⟨harmonic, -, rfl⟩ := mem_lanes_harmonicMask.mp member
  have low : ∀ harmonic : Fin calibrationHarmonicCount,
      Fin.castAdd 2 harmonic ∉ lanes (0xC0 : BitVec 8) := by decide
  exact low harmonic high

/-- The fields of a point are within their bounds, and detunings that are not valid are zero. -/
structure QuantizedPoint (point : StringCalibrationPoint) : Prop where
  cents : -maximumCentsQ8 ≤ point.centsOffsetQ8.toInt ∧
    point.centsOffsetQ8.toInt ≤ maximumCentsQ8
  confidence : point.confidenceQ15.toNat ≤ maximumQ15
  profile : ∀ harmonic, (point.harmonicProfileQ15 harmonic).toNat ≤ maximumQ15
  mask : point.partialDetuningValidMask &&& 0xC0 = 0
  detuning : ∀ harmonic, -maximumCentsQ8 ≤ (point.partialDetuningQ8 harmonic).toInt ∧
    (point.partialDetuningQ8 harmonic).toInt ≤ maximumCentsQ8
  undetuned : ∀ harmonic : Fin calibrationHarmonicCount,
    point.partialDetuningValidMask.getLsbD harmonic = false →
      point.partialDetuningQ8 harmonic = 0

/-- A point with quantized values is valid as soon as its quality and its number of observations go
together: a measured point has some, and an interpolated one has none. -/
theorem validPoint_of_quantized {point : StringCalibrationPoint} (quantized : QuantizedPoint point)
    (counted : match point.quality with
      | .missing => False
      | .measured => point.observationCount ≠ 0
      | .interpolated => point.observationCount = 0) : validPoint point = true := by
  have detunings : (List.finRange calibrationHarmonicCount).all (validDetuning point) = true := by
    refine List.all_eq_true.mpr fun harmonic _ => ?_
    obtain ⟨above, below⟩ := quantized.detuning harmonic
    rw [validDetuning, Bool.and_eq_true, Bool.and_eq_true, Bool.or_eq_true]
    refine ⟨⟨decide_eq_true above, decide_eq_true below⟩, ?_⟩
    cases set : point.partialDetuningValidMask.getLsbD harmonic with
    | true => exact .inl rfl
    | false => exact .inr (decide_eq_true (by rw [quantized.undetuned harmonic set]; rfl))
  have profile : (List.finRange calibrationHarmonicCount).all (fun harmonic =>
      decide ((point.harmonicProfileQ15 harmonic).toNat ≤ maximumQ15)) = true :=
    List.all_eq_true.mpr fun harmonic _ => decide_eq_true (quantized.profile harmonic)
  unfold validPoint
  dsimp only
  rw [detunings, profile, decide_eq_true quantized.cents.1, decide_eq_true quantized.cents.2,
    decide_eq_true quantized.confidence, decide_eq_true quantized.mask]
  revert counted
  cases point.quality with
  | missing => exact False.elim
  | measured => exact fun counted => decide_eq_true counted
  | interpolated => exact fun counted => decide_eq_true counted

/-- A valid point is within its bounds, whatever it is. -/
theorem quantized_of_validPoint {point : StringCalibrationPoint} (valid : validPoint point = true) :
    QuantizedPoint point := by
  unfold validPoint at valid
  simp only [Bool.and_eq_true, List.all_eq_true, decide_eq_true_eq] at valid
  obtain ⟨⟨⟨⟨⟨⟨above, below⟩, confidence⟩, profile⟩, mask⟩, detunings⟩, -⟩ := valid
  have checked (harmonic : Fin calibrationHarmonicCount) :
      (-maximumCentsQ8 ≤ (point.partialDetuningQ8 harmonic).toInt ∧
        (point.partialDetuningQ8 harmonic).toInt ≤ maximumCentsQ8) ∧
      (point.partialDetuningValidMask.getLsbD harmonic = true ∨
        (point.partialDetuningQ8 harmonic).toInt = 0) := by
    have holds := detunings harmonic (List.mem_finRange harmonic)
    rw [validDetuning, Bool.and_eq_true, Bool.and_eq_true, Bool.or_eq_true] at holds
    exact ⟨⟨of_decide_eq_true holds.1.1, of_decide_eq_true holds.1.2⟩,
      holds.2.imp_right of_decide_eq_true⟩
  exact
    { cents := ⟨above, below⟩
      confidence := confidence
      profile := fun harmonic => profile harmonic (List.mem_finRange harmonic)
      mask := mask
      detuning := fun harmonic => (checked harmonic).1
      undetuned := fun harmonic unset => BitVec.eq_of_toInt_eq
        ((checked harmonic).2.resolve_left (by rw [unset]; exact Bool.false_ne_true)) }

/-- A present point may stand in a bank for a calibrated string. -/
def PresentPoint (point : StringCalibrationPoint) : Prop :=
  validPoint point = true ∧ point.quality ≠ .missing

namespace FretDirections

variable {directions : FretDirections} {sqrt : ℚ → ℚ}

/-- A measured fret has been observed in both directions. -/
theorem totalCount_pos (measured : directions.measures sqrt = true) :
    0 < directions.totalCount := by
  rw [measures, Bool.and_eq_true, Bool.and_eq_true, Bool.and_eq_true] at measured
  have up := of_decide_eq_true measured.1.1.1
  unfold minimumObservationsPerDirection at up
  unfold totalCount
  omega

/-- The point of a measured fret has quantized values, since each of them is clamped on the way. -/
theorem quantized_measuredPoint (directions : FretDirections) (sqrt : ℚ → ℚ) :
    QuantizedPoint (directions.measuredPoint sqrt) where
  cents := centsQ8_mem _
  confidence := q15_le _
  profile _ := q15_le _
  mask := harmonicMask_high _
  detuning harmonic := by
    change _ ≤ (((directions.detuning sqrt harmonic).map centsQ8).getD 0).toInt ∧
      (((directions.detuning sqrt harmonic).map centsQ8).getD 0).toInt ≤ _
    cases directions.detuning sqrt harmonic with
    | none => exact ⟨Int.neg_le_of_neg_le (by decide), by decide⟩
    | some detuning => exact centsQ8_mem detuning
  undetuned harmonic unset := by
    have absent : (directions.detuning sqrt harmonic).isSome = false :=
      (getLsbD_harmonicMask harmonic).symm.trans unset
    change ((directions.detuning sqrt harmonic).map centsQ8).getD 0 = 0
    rw [Option.not_isSome_iff_eq_none.mp (Bool.eq_false_iff.mp absent)]
    rfl

/-- A fret is either measured, with a valid point, or missing. -/
theorem point_cases (directions : FretDirections) (sqrt : ℚ → ℚ) :
    directions.point sqrt = {} ∨
      validPoint (directions.point sqrt) = true ∧ (directions.point sqrt).quality = .measured := by
  unfold point
  cases measured : directions.measures sqrt with
  | false => exact .inl rfl
  | true =>
      refine .inr ⟨validPoint_of_quantized (quantized_measuredPoint directions sqrt) ?_, rfl⟩
      change BitVec.ofNat 16 (min directions.totalCount counterLimit) ≠ 0
      have positive := totalCount_pos measured
      rw [Ne, ← BitVec.toNat_inj, BitVec.toNat_ofNat]
      unfold counterLimit
      change (min directions.totalCount 65535) % 65536 ≠ 0
      omega

end FretDirections

section Interpolated

variable {left right : StringCalibrationPoint} {amount : ℚ}

/-- What lies between two points with quantized values has quantized values as well: every field is
a mean, and its rounding stays within the bounds. -/
theorem quantized_interpolatedPoint (one : QuantizedPoint left) (two : QuantizedPoint right)
    (unit : 0 ≤ amount ∧ amount ≤ 1) : QuantizedPoint (interpolatedPoint left right amount) where
  cents := by
    have within := roundAway_weighted_mem unit one.cents two.cents
    exact (toInt_ofInt_mem within).symm ▸ within
  confidence := by
    change (if right.confidenceQ15.toNat < left.confidenceQ15.toNat then right.confidenceQ15
      else left.confidenceQ15).toNat ≤ maximumQ15
    split_ifs
    · exact two.confidence
    · exact one.confidence
  profile harmonic := by
    have within := @roundAway_weighted_mem 0 maximumQ15 (left.harmonicProfileQ15 harmonic).toNat
      (right.harmonicProfileQ15 harmonic).toNat amount unit
      ⟨Int.natCast_nonneg _, Int.ofNat_le.mpr (one.profile harmonic)⟩
      ⟨Int.natCast_nonneg _, Int.ofNat_le.mpr (two.profile harmonic)⟩
    have exact := toNat_ofInt_mem within
    exact Int.ofNat_le.mp (exact.le.trans within.2)
  mask := harmonicMask_high _
  detuning harmonic := by
    have within := roundAway_weighted_mem unit (one.detuning harmonic) (two.detuning harmonic)
    change _ ≤ (if _ then BitVec.ofInt 16 (roundAway _) else 0 : BitVec 16).toInt ∧
      (if _ then BitVec.ofInt 16 (roundAway _) else 0 : BitVec 16).toInt ≤ _
    split_ifs
    · exact (toInt_ofInt_mem within).symm ▸ within
    · exact ⟨by decide, by decide⟩
  undetuned harmonic unset := by
    have absent := (getLsbD_harmonicMask harmonic).symm.trans unset
    exact if_neg (Bool.eq_false_iff.mp absent)

/-- A point between two present ones is present. -/
theorem presentPoint_interpolated (one : PresentPoint left) (two : PresentPoint right)
    (unit : 0 ≤ amount ∧ amount ≤ 1) : PresentPoint (interpolatedPoint left right amount) :=
  ⟨validPoint_of_quantized (quantized_interpolatedPoint (quantized_of_validPoint one.1)
    (quantized_of_validPoint two.1) unit) rfl, CalibrationPointQuality.noConfusion⟩

end Interpolated

namespace StringPoints

variable {measured points : StringPoints}

/-- The search down ends at a measured fret no higher than where it began, if the open string is
measured. -/
theorem leftOf_spec (first : points.measuredAt 0 = true) (fret : ℕ) :
    points.leftOf fret ≤ fret ∧ points.measuredAt (points.leftOf fret) = true := by
  induction fret with
  | zero => exact ⟨le_rfl, first⟩
  | succ fret ih =>
      rw [leftOf]
      split_ifs with here
      · exact ⟨le_rfl, here⟩
      · exact ⟨ih.1.trans (Nat.le_succ fret), ih.2⟩

/-- The search up ends at a measured fret no lower than where it began, if the last fret is
measured. -/
theorem rightOf_spec (last : points.measuredAt (calibrationFretCount - 1) = true) (above : ℕ) :
    calibrationFretCount - 1 - above ≤ points.rightOf above ∧
      points.measuredAt (points.rightOf above) = true := by
  induction above with
  | zero => exact ⟨le_rfl, last⟩
  | succ above ih =>
      rw [rightOf]
      split_ifs with here
      · exact ⟨le_rfl, here⟩
      · exact ⟨(Nat.sub_le_sub_left (Nat.le_succ above) _).trans ih.1, ih.2⟩

/-- The points are those that were measured, with every fret so far filled. -/
structure FilledTo (measured : StringPoints) (frets : ℕ) (points : StringPoints) : Prop where
  kept : ∀ fret, points.measuredAt fret = measured.measuredAt fret
  valid : ∀ fret, validPoint (points fret) = true
  present : ∀ fret < frets, (points.pointAt fret).quality ≠ .missing

/-- A fret counts as measured by the quality of its point alone. -/
theorem measuredAt_iff {fret : ℕ} :
    points.measuredAt fret = true ↔ (points.pointAt fret).quality = .measured := by
  rw [measuredAt, decide_eq_true_eq]

/-- A measured point among valid ones is present. -/
theorem presentPoint_measured (valid : ∀ fret, validPoint (points fret) = true) {fret : ℕ}
    (here : points.measuredAt fret = true) : PresentPoint (points.pointAt fret) := by
  refine ⟨valid _, fun missing => ?_⟩
  rw [measuredAt_iff.mp here] at missing
  exact CalibrationPointQuality.noConfusion missing

/-- An update changes the point of its own fret only. -/
theorem pointAt_update {fret other : ℕ} {point : StringCalibrationPoint} :
    StringPoints.pointAt
        (Function.update points (Fin.ofNat calibrationFretCount fret) point) other =
      if Fin.ofNat calibrationFretCount other = Fin.ofNat calibrationFretCount fret then point
      else points.pointAt other :=
  Function.update_apply ..

/-- A fret that was not measured is filled with a point that is not measured. -/
theorem FilledTo.update {fret : ℕ} (filled : FilledTo measured fret points)
    (unmeasured : points.measuredAt fret = false) {point : StringCalibrationPoint}
    (present : PresentPoint point) (interpolated : point.quality ≠ .measured) :
    FilledTo measured (fret + 1)
      (Function.update points (Fin.ofNat calibrationFretCount fret) point) where
  kept other := by
    rw [← filled.kept other, measuredAt, pointAt_update]
    split_ifs with same
    · have alike : points.measuredAt other = points.measuredAt fret := by
        rw [measuredAt, measuredAt, pointAt, pointAt, same]
      rw [alike, unmeasured]
      exact decide_eq_false interpolated
    · rfl
  valid other := by
    rw [Function.update_apply]
    split_ifs
    · exact present.1
    · exact filled.valid other
  present other below := by
    rw [pointAt_update]
    split_ifs with same
    · exact present.2
    · refine filled.present other (lt_of_le_of_ne (Nat.lt_succ_iff.mp below) ?_)
      rintro rfl
      exact same rfl

/-- One turn of the loop fills one fret. -/
theorem FilledTo.interpolateFret (first : measured.measuredAt 0 = true)
    (last : measured.measuredAt (calibrationFretCount - 1) = true)
    {interpolation : StringPoints × ℕ} {fret : ℕ} (within : fret ≤ calibrationFretCount - 1)
    (filled : FilledTo measured fret interpolation.1) :
    FilledTo measured (fret + 1) (interpolateFret interpolation fret).1 := by
  rw [StringPoints.interpolateFret]
  dsimp only
  cases here : interpolation.1.measuredAt fret with
  | true =>
      refine ⟨filled.kept, filled.valid, fun other below => ?_⟩
      rcases Nat.lt_succ_iff_lt_or_eq.mp below with before | rfl
      · exact filled.present other before
      · exact (presentPoint_measured filled.valid here).2
  | false =>
      obtain ⟨leftLe, leftMeasured⟩ := leftOf_spec ((filled.kept 0).trans first) fret
      obtain ⟨rightGe, rightMeasured⟩ :=
        rightOf_spec ((filled.kept _).trans last) (calibrationFretCount - 1 - fret)
      rw [Nat.sub_sub_self within] at rightGe
      have before : interpolation.1.leftOf fret < fret := by
        refine lt_of_le_of_ne leftLe fun same => ?_
        rw [same, here] at leftMeasured
        exact Bool.false_ne_true leftMeasured
      have after : fret < interpolation.1.rightOf (calibrationFretCount - 1 - fret) := by
        refine lt_of_le_of_ne rightGe fun same => ?_
        rw [← same, here] at rightMeasured
        exact Bool.false_ne_true rightMeasured
      rw [if_neg Bool.false_ne_true,
        if_pos ⟨leftMeasured, rightMeasured, before.trans after⟩]
      generalize interpolation.1.leftOf fret = left at *
      generalize interpolation.1.rightOf (calibrationFretCount - 1 - fret) = right at *
      refine filled.update here (presentPoint_interpolated
        (presentPoint_measured filled.valid leftMeasured)
        (presentPoint_measured filled.valid rightMeasured) ⟨by positivity, ?_⟩)
        CalibrationPointQuality.noConfusion
      have wide : (0 : ℚ) < (right - left : ℕ) := Nat.cast_pos.mpr (by omega)
      rw [div_le_one wide, Nat.cast_le]
      omega

/-- With both ends measured, the loop leaves a present point on every fret. -/
theorem interpolate_present (valid : ∀ fret, validPoint (points fret) = true)
    (first : points.measuredAt 0 = true)
    (last : points.measuredAt (calibrationFretCount - 1) = true)
    (fret : Fin calibrationFretCount) : PresentPoint (points.interpolate.1 fret) := by
  have frets : calibrationFretCount = 25 := rfl
  have loop : ∀ count ≤ calibrationFretCount - 2, FilledTo points (1 + count)
      ((List.range' 1 count).foldl interpolateFret (points, 0)).1 := by
    intro count within
    induction count with
    | zero =>
        refine ⟨fun _ => rfl, valid, fun other below => ?_⟩
        obtain rfl : other = 0 := Nat.lt_one_iff.mp below
        exact (presentPoint_measured valid first).2
    | succ count ih =>
        rw [List.range'_1_concat, List.foldl_concat]
        have inside : 1 + count ≤ calibrationFretCount - 1 := by omega
        exact (ih (Nat.le_of_succ_le within)).interpolateFret first last inside
  have filled : FilledTo points (1 + (calibrationFretCount - 2)) points.interpolate.1 := by
    rw [interpolate]
    exact loop _ le_rfl
  generalize points.interpolate.1 = result at filled ⊢
  refine ⟨filled.valid fret, ?_⟩
  have named : fret = Fin.ofNat calibrationFretCount fret.val :=
    Fin.ext (Nat.mod_eq_of_lt fret.isLt).symm
  rw [named]
  rcases Nat.lt_or_ge fret.val (1 + (calibrationFretCount - 2)) with below | above
  · exact filled.present fret.val below
  · have top : fret.val = calibrationFretCount - 1 := by omega
    rw [top]
    exact (presentPoint_measured filled.valid ((filled.kept _).trans last)).2

end StringPoints

end Points

/-! ## The calibrator between the threads -/

/-- A sweep that comes to its end brings a present point for each fret. -/
def SweepEvidence.Sound : SweepEvidence → Prop
  | .completes points => ∀ fret, PresentPoint (points fret)
  | _ => True

namespace StringSweepCalibrator

variable {calibrator : StringSweepCalibrator}

/-- To observe nothing leaves the abstract sweep as it is. -/
theorem observe_nothing (calibrator : StringSweepCalibrator) :
    calibrator.observe .nothing = calibrator := by
  rw [observe]
  split_ifs <;> rfl

/-- The mask marks the string of the sweep, and no other one. -/
theorem stringCalibrated_finalize (points : Fin calibrationFretCount → StringCalibrationPoint)
    (string : Fin maxVoices) :
    (calibrator.finalize points).bank.stringCalibrated string =
      (calibrator.bank.stringCalibrated string || decide (string = calibrator.stringIndex)) := by
  have bit : ∀ index string : Fin maxVoices,
      ((1 : BitVec 8) <<< index.val).getLsbD string = decide (string = index) := by decide
  exact (BitVec.getLsbD_or ..).trans (congrArg _ (bit calibrator.stringIndex string))

/-- A sweep that ends with present points keeps the bank valid. -/
theorem validBank_finalize (valid : validBank calibrator.bank = true)
    {points : Fin calibrationFretCount → StringCalibrationPoint}
    (present : ∀ fret, PresentPoint (points fret)) :
    validBank (calibrator.finalize points).bank = true := by
  rw [validBank_iff] at valid ⊢
  intro string fret
  rw [stringCalibrated_finalize]
  change validPoint (Function.update calibrator.bank.points calibrator.stringIndex points string
    fret) = true ∧ _ = decide ((Function.update calibrator.bank.points calibrator.stringIndex points
      string fret).quality ≠ .missing)
  by_cases same : string = calibrator.stringIndex
  · rw [same, Function.update_self, decide_eq_true rfl, Bool.or_true]
    exact ⟨(present fret).1, (decide_eq_true (present fret).2).symm⟩
  · rw [Function.update_of_ne same, decide_eq_false same, Bool.or_false]
    exact valid string fret

end StringSweepCalibrator

namespace SweepCalibrator

variable {sqrt : ℚ → ℚ} {calibrator before after : SweepCalibrator}

/-- What the threads know of the calibrator. -/
def sweep (calibrator : SweepCalibrator) : StringSweepCalibrator where
  phase := calibrator.status.phase
  stringIndex := calibrator.status.stringIndex
  bank := calibrator.bank

/-- An observation comes to sound evidence. -/
def Follows (before after : SweepCalibrator) : Prop :=
  ∃ evidence : SweepEvidence, evidence.Sound ∧ after.sweep = before.sweep.observe evidence

theorem Follows.of_same (same : after.sweep = before.sweep) : before.Follows after :=
  ⟨.nothing, trivial, same.trans (StringSweepCalibrator.observe_nothing _).symm⟩

/-- A rejected observation is counted, and the sweep goes on as before. -/
theorem reject_sweep (calibrator : SweepCalibrator) :
    calibrator.reject.2.sweep = calibrator.sweep := by
  rw [reject]
  dsimp only
  split_ifs <;> rfl

/-- The end of a sweep fills the string, or finds too little. -/
theorem finalize_follows (active : calibrator.active = true) :
    calibrator.Follows (calibrator.finalize sqrt) := by
  rw [finalize]
  dsimp only
  split_ifs with ends
  · refine ⟨.completes _, ?_, (if_pos active).symm⟩
    refine StringPoints.interpolate_present (fun fret => ?_) ends.1 ends.2.1
    rcases FretDirections.point_cases
      ⟨calibrator.ascending fret, calibrator.descending fret⟩ sqrt with missing | measured
    · rw [missing]
      decide
    · exact measured.1
  · exact ⟨.insufficient, trivial, (if_pos active).symm⟩

/-- The window that becomes part of a fret's sums does not move the sweep. -/
theorem mergeWindow_sweep (calibrator : SweepCalibrator) (fret : Fin calibrationFretCount) :
    (calibrator.mergeWindow fret).sweep = calibrator.sweep := by
  rw [mergeWindow]
  dsimp only
  split_ifs <;> rfl

/-- The advance to another fret is no observation, turns the sweep downwards or ends it. -/
theorem advance_follows (active : calibrator.active = true) (fret : Fin calibrationFretCount) :
    calibrator.Follows (calibrator.advance sqrt fret) := by
  rw [advance]
  dsimp only
  split_ifs
  · exact Follows.of_same rfl
  · exact ⟨.descends, trivial, (if_pos active).symm⟩
  · exact finalize_follows active
  · exact Follows.of_same rfl

/-- An observation of the open string leaves the sweep waiting or starts its ascent. -/
theorem observeOpen_follows (active : calibrator.active = true) (sample : CalibrationSample) :
    calibrator.Follows (calibrator.observeOpen sqrt sample).2 := by
  rw [observeOpen]
  split_ifs
  · exact Follows.of_same (reject_sweep calibrator)
  · dsimp only
    split_ifs
    · exact Follows.of_same rfl
    · exact ⟨.ascends, trivial, (if_pos active).symm⟩
    · exact Follows.of_same rfl

/-- An observation of a fret moves the sweep only through the advance. -/
theorem observeFret_follows (active : calibrator.active = true) (sample : CalibrationSample) :
    calibrator.Follows (calibrator.observeFret sqrt sample).2 := by
  rw [observeFret]
  dsimp only
  split_ifs
  · exact Follows.of_same (reject_sweep _)
  · exact Follows.of_same (reject_sweep calibrator)
  · exact Follows.of_same rfl
  · have merged := mergeWindow_sweep
      { calibrator with stableWindow := (calibrator.stableWindow.widen sample).add sample }
      sample.fret
    have stillActive := congrArg StringSweepCalibrator.active merged
    obtain ⟨evidence, sound, comes⟩ :=
      @advance_follows sqrt _ (stillActive.trans active) sample.fret
    exact ⟨evidence, sound, comes.trans (congrArg (·.observe evidence) merged)⟩
  · exact Follows.of_same rfl

/-- The calibrator refines the one between the threads, which observes sound evidence. -/
theorem observe_follows (sqrt : ℚ → ℚ) (calibrator : SweepCalibrator)
    (observation : CalibrationObservation) :
    calibrator.Follows (calibrator.observe sqrt observation).2 := by
  rw [observe]
  by_cases active : calibrator.active = true
  · rw [if_pos active]
    cases observation.sample calibrator.status.stringIndex with
    | none => exact Follows.of_same (reject_sweep calibrator)
    | some sample =>
        dsimp only
        split_ifs
        · exact observeOpen_follows active sample
        · exact observeFret_follows active sample
  · rw [if_neg active]
    exact Follows.of_same (reject_sweep calibrator)

/-- Every call does to the calibrator between the threads what its name says. -/
theorem call_refines (sqrt : ℚ → ℚ) (calibrator : SweepCalibrator) (call : SweepCall) :
    match call with
    | .begin stringIndex rate =>
        (calibrator.begin stringIndex rate).2.sweep = calibrator.sweep ∨
          ∃ inside, (calibrator.begin stringIndex rate).2.sweep =
            calibrator.sweep.begin ⟨stringIndex, inside⟩
    | .observe observation => calibrator.Follows (calibrator.observe sqrt observation).2
    | .cancel => calibrator.cancel.sweep = calibrator.sweep.cancel
    | .clear => calibrator.clear.sweep = calibrator.sweep.clear
    | .setBank bank => (calibrator.setBank bank).sweep = calibrator.sweep.setBank bank := by
  cases call with
  | begin stringIndex rate =>
      cases rate with
      | none => exact .inl rfl
      | some rate =>
          dsimp only
          rw [begin]
          by_cases inside : stringIndex < maxVoices
          · by_cases refused : calibrator.active = true ∨ rate ≤ 0
            · rw [dif_pos inside, if_pos refused]
              exact .inl rfl
            · have idle : ¬ calibrator.sweep.active = true := fun active => refused (.inl active)
              rw [dif_pos inside, if_neg refused]
              exact .inr ⟨inside, (if_neg idle).symm⟩
          · rw [dif_neg inside]
            exact .inl rfl
  | observe observation => exact observe_follows sqrt calibrator observation
  | cancel =>
      dsimp only
      by_cases active : calibrator.active = true
      · refine Eq.trans ?_ (if_pos (show calibrator.sweep.active = true from active)).symm
        rw [cancel, if_pos active]
        rfl
      · refine Eq.trans ?_ (if_neg (show ¬ calibrator.sweep.active = true from active)).symm
        rw [cancel, if_neg active]
        rfl
  | clear => rfl
  | setBank bank =>
      dsimp only
      by_cases active : calibrator.active = true
      · refine Eq.trans ?_ (if_pos (show calibrator.sweep.active = true from active)).symm
        rw [setBank, if_pos active]
      · refine Eq.trans ?_ (if_neg (show ¬ calibrator.sweep.active = true from active)).symm
        rw [setBank, if_neg active]
        rfl

/-- A sweep that begins leaves the bank alone: the old calibration holds until the new one is
complete. -/
theorem begin_bank (calibrator : SweepCalibrator) (stringIndex : ℕ) (rate : Option ℚ) :
    (calibrator.begin stringIndex rate).2.bank = calibrator.bank := by
  cases rate with
  | none => rfl
  | some rate =>
      rw [begin]
      split_ifs <;> rfl

/-- A bank is taken over as it is or not at all. -/
theorem setBank_bank (calibrator : SweepCalibrator) (bank : StringCalibrationBank) :
    (calibrator.setBank bank).bank = calibrator.bank ∨ (calibrator.setBank bank).bank = bank := by
  rw [setBank]
  split_ifs
  · exact .inl rfl
  · exact .inr rfl

/-- An observation leaves the bank, or ends the sweep with a present point for each fret. -/
theorem observe_bank (sqrt : ℚ → ℚ) (calibrator : SweepCalibrator)
    (observation : CalibrationObservation) :
    (calibrator.observe sqrt observation).2.bank = calibrator.bank ∨
      calibrator.active = true ∧ ∃ points, (∀ fret, PresentPoint (points fret)) ∧
        (calibrator.observe sqrt observation).2.sweep = calibrator.sweep.finalize points := by
  obtain ⟨evidence, sound, comes⟩ := observe_follows sqrt calibrator observation
  by_cases active : calibrator.active = true
  · have goes := comes.trans (if_pos active)
    cases evidence with
    | completes points => exact .inr ⟨active, points, sound, goes⟩
    | nothing | ascends | descends | insufficient =>
        exact .inl (congrArg StringSweepCalibrator.bank goes)
  · exact .inl (congrArg StringSweepCalibrator.bank (comes.trans (if_neg active)))

/-- What a call does to the bank. -/
theorem call_bank (sqrt : ℚ → ℚ) (calibrator : SweepCalibrator) (call : SweepCall) :
    (calibrator.call sqrt call).bank = calibrator.bank ∨
      (call = .clear ∧ (calibrator.call sqrt call).bank = {}) ∨
      call = .setBank (calibrator.call sqrt call).bank ∨
      (∃ observation, call = .observe observation) ∧ calibrator.active = true ∧
        ∃ points, (∀ fret, PresentPoint (points fret)) ∧
          (calibrator.call sqrt call).sweep = calibrator.sweep.finalize points := by
  cases call with
  | begin stringIndex rate => exact .inl (begin_bank calibrator stringIndex rate)
  | observe observation =>
      rcases observe_bank sqrt calibrator observation with kept | ended
      · exact .inl kept
      · exact .inr (.inr (.inr ⟨⟨observation, rfl⟩, ended⟩))
  | cancel => exact .inl rfl
  | clear => exact .inr (.inl ⟨rfl, rfl⟩)
  | setBank bank =>
      rcases setBank_bank calibrator bank with kept | given
      · exact .inl kept
      · exact .inr (.inr (.inl (congrArg SweepCall.setBank given).symm))

/-- A call keeps the bank valid when it gives no other one. -/
theorem validBank_call {call : SweepCall} (valid : validBank calibrator.bank = true)
    (given : ∀ bank, call = .setBank bank → validBank bank = true) :
    validBank (calibrator.call sqrt call).bank = true := by
  rcases call_bank sqrt calibrator call with kept | ⟨-, empty⟩ | set | ⟨-, -, points, present, ends⟩
  · rw [kept]
    exact valid
  · rw [empty]
    exact validBank_empty
  · exact given _ set
  · have bank := congrArg StringSweepCalibrator.bank ends
    change (calibrator.call sqrt call).bank = _ at bank
    rw [bank]
    exact @StringSweepCalibrator.validBank_finalize calibrator.sweep valid points present

/-- Whatever is called, the bank of the calibrator is valid, as long as the banks handed to it are.
The default bank is, and a sweep that completes fills a string with valid points. -/
theorem validBank_run (sqrt : ℚ → ℚ) (calls : List SweepCall)
    (given : ∀ bank, .setBank bank ∈ calls → validBank bank = true) :
    validBank ((machine sqrt).run {} calls).1.bank = true := by
  induction calls using List.reverseRecOn with
  | nil => exact validBank_empty
  | append_singleton calls call ih =>
      rw [(machine sqrt).run_concat]
      have before := ih fun bank member => given bank (List.mem_append_left _ member)
      refine @validBank_call sqrt _ call before fun bank set => given bank ?_
      rw [set]
      exact List.mem_append_right calls (List.mem_singleton_self _)

/-- After any calls that give only valid banks, the bank can be saved. The next call leaves
it, clears it, gives it, or ends a sweep, which then leaves the other strings alone. -/
theorem sweep_bank_savable (sqrt : ℚ → ℚ) (calls : List SweepCall)
    (given : ∀ bank, .setBank bank ∈ calls → validBank bank = true) :
    let reached := ((machine sqrt).run {} calls).1
    (encodeCalibrationState reached.bank).isSome = true ∧
      ∀ call, let after := reached.call sqrt call
        after.bank = reached.bank ∨ (call = .clear ∧ after.bank = {}) ∨
          call = .setBank after.bank ∨
          (∃ observation, call = .observe observation) ∧
            reached.active = true ∧ after.status.phase = .complete ∧
            ∀ string, string ≠ reached.status.stringIndex →
              after.bank.points string = reached.bank.points string ∧
                after.bank.stringCalibrated string = reached.bank.stringCalibrated string := by
  intro reached
  constructor
  · rw [encodeCalibrationState_isSome]
    exact validBank_run sqrt calls given
  · intro call after
    rcases call_bank sqrt reached call with kept | cleared | set |
      ⟨observed, active, points, -, ends⟩
    · exact .inl kept
    · exact .inr (.inl cleared)
    · exact .inr (.inr (.inl set))
    · refine .inr (.inr (.inr ⟨observed, active, congrArg StringSweepCalibrator.phase ends, ?_⟩))
      intro string other
      have bank : after.bank = (reached.sweep.finalize points).bank :=
        congrArg StringSweepCalibrator.bank ends
      rw [bank]
      constructor
      · exact Function.update_of_ne other _ _
      · have absent : decide (string = reached.sweep.stringIndex) = false := decide_eq_false other
        rw [StringSweepCalibrator.stringCalibrated_finalize, absent, Bool.or_false]
        rfl

/-- A pure tone on a fret of the first string. -/
def pureTone (fret : ℕ) : CalibrationObservation where
  midiPitch := some (32 + fret)
  harmonicEnergy harmonic := some (if harmonic.val = 0 then 1 else 0)
  partialDetuningCents _ := none
  partialDetuningValidMask := 0
  confidence := some 1

/-- The open string, every fret up to the last, and down again, three times each. -/
def wholeSweep : List SweepCall :=
  .setBank {} :: .begin 0 (some 30) ::
    (List.range calibrationFretCount ++ (List.range (calibrationFretCount - 1)).reverse).flatMap
      fun fret => List.replicate 3 (.observe (pureTone fret))

/-- There the sweep ends with a bank of its own; roots are taken of zero and one only. -/
theorem sweep_bank_savable_wholeSweep :
    let reached := ((machine id).run {} wholeSweep).1
    (encodeCalibrationState reached.bank).isSome = true ∧
      reached.status.phase = .complete ∧ reached.bank.stringCalibrated firstString = true := by
  have given : ∀ bank, .setBank bank ∈ wholeSweep → validBank bank = true := by
    intro bank member
    rw [wholeSweep, List.mem_cons, List.mem_cons, List.mem_flatMap] at member
    rcases member with same | started | ⟨fret, -, observed⟩
    · rw [SweepCall.setBank.inj same]
      exact validBank_empty
    · exact SweepCall.noConfusion started
    · exact SweepCall.noConfusion (List.eq_of_mem_replicate observed)
  exact ⟨(sweep_bank_savable id wholeSweep given).1, by decide +kernel, by decide +kernel⟩

end SweepCalibrator

end M3Midi
