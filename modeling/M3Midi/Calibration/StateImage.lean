import M3Midi.Calibration.Bank
import M3Midi.Parameter.StateImage

/-! # The calibration image

A project stores a bank after its configuration, as a header with a checksum and
one record per point. Version one had no partial detunings. The factory bank is an
image that ships with the program; a project's bank overrides it string by string.
-/

namespace M3Midi

open Foundation

/-- `kCalibrationStateHeaderSize` -/
def calibrationStateHeaderSize : Nat := 24

/-- `kCalibrationPointStateSize` -/
def calibrationPointStateSize : Nat := 32

/-- `kCalibrationPointStateV1Size`, the size of a point without its detunings. -/
def calibrationPointStateV1Size : Nat := 19

/-- Bytes of the mask and of all points. -/
def calibrationPayloadSize (pointSize : Nat) : Nat :=
  1 + maxVoices * calibrationFretCount * pointSize

/-- The letters `M3CB`. -/
def calibrationMagic : List Byte := [0x4D, 0x33, 0x43, 0x42]

/-- The record of a point. -/
def encodePoint (point : StringCalibrationPoint) : List Byte :=
  let harmonics := List.finRange calibrationHarmonicCount
  toBytes 2 point.centsOffsetQ8.toNat ++
    (harmonics.flatMap fun harmonic => toBytes 2 (point.harmonicProfileQ15 harmonic).toNat) ++
    (harmonics.flatMap fun harmonic => toBytes 2 (point.partialDetuningQ8 harmonic).toNat) ++
    [point.partialDetuningValidMask] ++ toBytes 2 point.confidenceQ15.toNat ++
    toBytes 2 point.observationCount.toNat ++ toBytes 1 point.quality.toNat

/-- The mask, then the points by string and fret. -/
def encodeBank (bank : StringCalibrationBank) : List Byte :=
  bank.calibratedStringMask :: (List.finRange maxVoices).flatMap fun string =>
    (List.finRange calibrationFretCount).flatMap fun fret => encodePoint (bank.points string fret)

/-- The image of a bank, if the bank is valid. -/
def encodeCalibrationState (bank : StringCalibrationBank) : Option (List Byte) :=
  if validBank bank then
    let payload := encodeBank bank
    some (calibrationMagic ++ toBytes 2 2 ++ toBytes 2 maxVoices ++ toBytes 2 calibrationFretCount ++
      toBytes 2 calibrationHarmonicCount ++
      toBytes 4 (calibrationPayloadSize calibrationPointStateSize) ++
      toBytes 4 (crc32 payload).toNat ++ toBytes 4 0 ++ payload)
  else none

/-- A point of a record; `detuned` tells whether the record has partial detunings. -/
def decodePoint (detuned : Bool) (record : List Byte) : Option StringCalibrationPoint :=
  let tail := if detuned then 27 else 14
  (CalibrationPointQuality.ofNat? (wordAt record (tail + 4) 1)).map fun quality =>
    { centsOffsetQ8 := BitVec.ofNat 16 (wordAt record 0 2)
      harmonicProfileQ15 := fun harmonic => BitVec.ofNat 16 (wordAt record (2 + 2 * harmonic) 2)
      partialDetuningQ8 := fun harmonic =>
        if detuned then BitVec.ofNat 16 (wordAt record (14 + 2 * harmonic) 2) else 0
      partialDetuningValidMask := if detuned then BitVec.ofNat 8 (wordAt record 26 1) else 0
      confidenceQ15 := BitVec.ofNat 16 (wordAt record tail 2)
      observationCount := BitVec.ofNat 16 (wordAt record (tail + 2) 2)
      quality }

/-- The points of a payload, absent when one of them has no known quality. -/
def decodeBank (detuned : Bool) (payload : List Byte) : Option StringCalibrationBank :=
  let size := if detuned then calibrationPointStateSize else calibrationPointStateV1Size
  let point (string : Fin maxVoices) (fret : Fin calibrationFretCount) :=
    decodePoint detuned (payload.drop (1 + (string * calibrationFretCount + fret) * size))
  if (List.finRange maxVoices).all fun string =>
      (List.finRange calibrationFretCount).all fun fret => (point string fret).isSome then
    some { points := fun string fret => (point string fret).getD {}
           calibratedStringMask := BitVec.ofNat 8 (wordAt payload 0 1) }
  else none

/-- Does the header announce this version, and the image have its size? -/
def hasVersion (bytes : List Byte) (version pointSize : Nat) : Bool :=
  wordAt bytes 4 2 = version &&
    bytes.length = calibrationStateHeaderSize + calibrationPayloadSize pointSize &&
    wordAt bytes 12 4 = calibrationPayloadSize pointSize

/-- The bank of an image, if its header, its checksum and its points are valid. -/
def decodeCalibrationState (bytes : List Byte) : Option StringCalibrationBank :=
  let payload := bytes.drop calibrationStateHeaderSize
  let v1 := hasVersion bytes 1 calibrationPointStateV1Size
  let v2 := hasVersion bytes 2 calibrationPointStateSize
  if bytes.take 4 ≠ calibrationMagic ∨ wordAt bytes 6 2 ≠ maxVoices ∨
      wordAt bytes 8 2 ≠ calibrationFretCount ∨ wordAt bytes 10 2 ≠ calibrationHarmonicCount ∨
      wordAt bytes 20 4 ≠ 0 ∨ wordAt bytes 16 4 ≠ (crc32 payload).toNat ∨
      (v1 = false ∧ v2 = false) then
    none
  else (decodeBank v2 payload).filter validBank

/-- The bank of the image that ships with the program; empty when it does not decode. -/
def factoryCalibrationBank (image : List Byte) : StringCalibrationBank :=
  (decodeCalibrationState image).getD {}

/-- Calibrated strings of a project override the factory's. -/
def mergeFactoryCalibration (factory overrides : StringCalibrationBank) : StringCalibrationBank where
  points string :=
    if overrides.stringCalibrated string then overrides.points string else factory.points string
  calibratedStringMask := factory.calibratedStringMask ||| overrides.calibratedStringMask

/-- A saved project: the configuration's image, then the bank's. -/
def saveState (config : PersistentConfig) (calibration : StringCalibrationBank) :
    Option (List Byte) :=
  (encodeState config).bind fun state =>
    (encodeCalibrationState calibration).map fun image => state ++ image

/-- What a project's bytes load; without a calibration image the bank is empty. -/
def loadState (bytes : List Byte) : Option (PersistentConfig × StringCalibrationBank) :=
  (decodeState (bytes.take stateSize)).bind fun config =>
    if bytes.drop stateSize = [] then some (config, {})
    else (decodeCalibrationState (bytes.drop stateSize)).map fun bank => (config, bank)

/-- Exactly the valid banks have an image. -/
theorem encodeCalibrationState_isSome {bank : StringCalibrationBank} :
    (encodeCalibrationState bank).isSome = validBank bank := by
  unfold encodeCalibrationState
  split_ifs with valid
  · exact valid.symm
  · exact (Bool.eq_false_iff.mpr valid).symm

section Injective

/-- A word is known by its two bytes. -/
theorem toNat_bytes_inj {first second : BitVec 16}
    (same : toBytes 2 first.toNat = toBytes 2 second.toNat) : first = second :=
  BitVec.eq_of_toNat_eq (toBytes_inj first.isLt second.isLt same)

/-- The words of a table of sixteen-bit fields determine it. -/
theorem fields_bytes_inj {first second : Fin calibrationHarmonicCount → BitVec 16}
    (same : ((List.finRange calibrationHarmonicCount).flatMap fun harmonic =>
        toBytes 2 (first harmonic).toNat) =
      (List.finRange calibrationHarmonicCount).flatMap fun harmonic =>
        toBytes 2 (second harmonic).toNat) :
    first = second := by
  funext harmonic
  exact toNat_bytes_inj (flatMap_inj (fun _ => length_toBytes 2 _) (fun _ => length_toBytes 2 _) same
    harmonic (List.mem_finRange harmonic))

/-- A quality is known by its number. -/
theorem CalibrationPointQuality.toNat_inj {first second : CalibrationPointQuality}
    (same : first.toNat = second.toNat) : first = second := by
  cases first <;> cases second <;> first | rfl | exact absurd same (by decide)

@[simp] theorem length_encodePoint (point : StringCalibrationPoint) :
    (encodePoint point).length = calibrationPointStateSize := by
  unfold encodePoint
  simp [length_flatMap_const (fun _ => length_toBytes 2 _), calibrationPointStateSize,
    calibrationHarmonicCount]

/-- A point's record determines the point. -/
theorem encodePoint_inj {first second : StringCalibrationPoint}
    (same : encodePoint first = encodePoint second) : first = second := by
  have fieldsLength (field : Fin calibrationHarmonicCount → BitVec 16) :=
    length_flatMap_const (fun harmonic => length_toBytes 2 (field harmonic).toNat)
      (List.finRange calibrationHarmonicCount)
  have quality_small (quality : CalibrationPointQuality) : quality.toNat < 256 ^ 1 := by
    cases quality <;> decide
  unfold encodePoint at same
  dsimp only at same
  obtain ⟨same, quality⟩ := List.append_inj' same (by simp)
  obtain ⟨same, count⟩ := List.append_inj' same (by simp)
  obtain ⟨same, confidence⟩ := List.append_inj' same (by simp)
  obtain ⟨same, mask⟩ := List.append_inj' same rfl
  obtain ⟨same, detunings⟩ := List.append_inj' same (by rw [fieldsLength, fieldsLength])
  obtain ⟨cents, profile⟩ := List.append_inj' same (by rw [fieldsLength, fieldsLength])
  exact StringCalibrationPoint.mk.injEq .. |>.mpr
    ⟨toNat_bytes_inj cents, fields_bytes_inj profile, fields_bytes_inj detunings,
      List.head_eq_of_cons_eq mask, toNat_bytes_inj confidence, toNat_bytes_inj count,
      CalibrationPointQuality.toNat_inj
        (toBytes_inj (quality_small _) (quality_small _) quality)⟩

/-- A bank's payload determines the bank. -/
theorem encodeBank_inj {first second : StringCalibrationBank}
    (same : encodeBank first = encodeBank second) : first = second := by
  obtain ⟨mask, records⟩ := List.cons_eq_cons.mp same
  have stringLength (bank : StringCalibrationBank) (string : Fin maxVoices) :=
    length_flatMap_const (fun fret => length_encodePoint (bank.points string fret))
      (List.finRange calibrationFretCount)
  refine StringCalibrationBank.mk.injEq .. |>.mpr ⟨?_, mask⟩
  funext string fret
  have strings := flatMap_inj (stringLength first) (stringLength second) records string
    (List.mem_finRange string)
  exact encodePoint_inj (flatMap_inj (fun _ => length_encodePoint _) (fun _ => length_encodePoint _)
    strings fret (List.mem_finRange fret))

/-- A calibration image determines the bank it was written for. -/
theorem encodeCalibrationState_inj {first second : StringCalibrationBank} {image : List Byte}
    (firstImage : encodeCalibrationState first = some image)
    (secondImage : encodeCalibrationState second = some image) : first = second := by
  unfold encodeCalibrationState at firstImage secondImage
  split_ifs at firstImage secondImage
  have same := Option.some.inj (firstImage.trans secondImage.symm)
  exact encodeBank_inj (List.append_inj same (by simp)).2

end Injective

end M3Midi
