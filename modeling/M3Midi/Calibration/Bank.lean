import M3Midi.Foundation.ByteCodec
import M3Midi.Types
import Mathlib.Data.Fintype.Pi

/-! # String calibration banks

A bank holds one point for every string and fret: the measured pitch offset, the
harmonic profile and the detuning of the partials. Sixteen-bit fields keep their
bits; offsets and detunings are read as signed.
-/

namespace M3Midi

open Foundation

/-- Frets of a string with its open position (`kCalibrationFretCount`). -/
abbrev calibrationFretCount : Nat := 25

/-- `kCalibrationHarmonicCount` -/
abbrev calibrationHarmonicCount : Nat := 6

/-- `CalibrationPointQuality` -/
inductive CalibrationPointQuality
  | missing
  | measured
  | interpolated
  deriving DecidableEq, Repr

/-- The stored value of a quality. -/
def CalibrationPointQuality.toNat : CalibrationPointQuality → Nat
  | missing => 0
  | measured => 1
  | interpolated => 2

/-- The quality that a number stands for, if there is one. -/
def CalibrationPointQuality.ofNat? : Nat → Option CalibrationPointQuality
  | 0 => some missing
  | 1 => some measured
  | 2 => some interpolated
  | _ => none

/-- `StringCalibrationPoint`: what has been learned about a fret, in the units of its image. -/
structure StringCalibrationPoint where
  centsOffsetQ8 : BitVec 16 := 0
  harmonicProfileQ15 : Fin calibrationHarmonicCount → BitVec 16 := fun _ => 0
  partialDetuningQ8 : Fin calibrationHarmonicCount → BitVec 16 := fun _ => 0
  partialDetuningValidMask : BitVec 8 := 0
  confidenceQ15 : BitVec 16 := 0
  observationCount : BitVec 16 := 0
  quality : CalibrationPointQuality := .missing
  deriving DecidableEq

/-- `StringCalibrationBank`: the points of all strings, and which strings have been calibrated. -/
structure StringCalibrationBank where
  points : Fin maxVoices → Fin calibrationFretCount → StringCalibrationPoint := fun _ _ => {}
  calibratedStringMask : BitVec 8 := 0
  deriving DecidableEq

namespace StringCalibrationBank

/-- Has the string been calibrated? -/
def stringCalibrated (bank : StringCalibrationBank) (string : Fin maxVoices) : Bool :=
  bank.calibratedStringMask.getLsbD string

end StringCalibrationBank

/-- Fifty cents in the units of offsets and detunings. -/
def maximumCentsQ8 : Int := 50 * 256

/-- `kMaximumQ15` -/
def maximumQ15 : Nat := 32767

/-- Is a detuning in range, and zero where the mask does not mark it valid? -/
def validDetuning (point : StringCalibrationPoint) (harmonic : Fin calibrationHarmonicCount) :
    Bool :=
  let detuning := (point.partialDetuningQ8 harmonic).toInt
  detuning ≥ -maximumCentsQ8 && detuning ≤ maximumCentsQ8 &&
    (point.partialDetuningValidMask.getLsbD harmonic || detuning = 0)

/-- The values of a point are in range, and agree with its quality. A point that is missing has no
values at all, a measured one has been observed, and an interpolated one has not. -/
def validPoint (point : StringCalibrationPoint) : Bool :=
  let harmonics := List.finRange calibrationHarmonicCount
  point.centsOffsetQ8.toInt ≥ -maximumCentsQ8 && point.centsOffsetQ8.toInt ≤ maximumCentsQ8 &&
    point.confidenceQ15.toNat ≤ maximumQ15 &&
    (harmonics.all fun harmonic => (point.harmonicProfileQ15 harmonic).toNat ≤ maximumQ15) &&
    point.partialDetuningValidMask &&& 0xC0 = 0 &&
    harmonics.all (validDetuning point) &&
    match point.quality with
    | .missing =>
        point.centsOffsetQ8 = 0 && point.confidenceQ15 = 0 && point.observationCount = 0 &&
          (harmonics.all fun harmonic => point.harmonicProfileQ15 harmonic = 0) &&
          point.partialDetuningValidMask = 0 &&
          harmonics.all fun harmonic => point.partialDetuningQ8 harmonic = 0
    | .measured => point.observationCount ≠ 0
    | .interpolated => point.observationCount = 0

/-- Every point is valid, and present exactly on the calibrated strings. -/
def validBank (bank : StringCalibrationBank) : Bool :=
  (List.finRange maxVoices).all fun string =>
    (List.finRange calibrationFretCount).all fun fret =>
      let point := bank.points string fret
      validPoint point && (bank.stringCalibrated string == decide (point.quality ≠ .missing))

end M3Midi
