import M3Midi.Calibration.Handoff
import M3Midi.Foundation.MaskSweep
import M3Midi.Foundation.Rounding
import Mathlib.Algebra.BigOperators.Fin

/-! # The sweep that calibrates a string

A sweep takes the open string, then every fret up to the last and down again, each when
it is requested. The observations of a fret are added up for both directions; when the
sweep ends, frets whose directions agree are measured and the others interpolated. Floating
point is exact here, where numbers that are not finite are absent, and the square root is a
parameter.
-/

namespace M3Midi

open Foundation

/-- The largest value of a sixteen-bit counter. -/
def counterLimit : ℕ := 65535

/-- `kMinimumObservationsPerDirection`: what a fret needs, going up and going down. -/
def minimumObservationsPerDirection : ℕ := 3
/-- `kMinimumStableWindowObservations`, the least that a window needs at any rate of observations.
-/
def minimumStableWindowObservations : ℕ := 3
/-- `kMinimumMeasuredFrets`: so many frets have to be measured, for the others to be interpolated.
-/
def minimumMeasuredFrets : ℕ := 18

/-- The machine epsilon of doubles. -/
def doubleEpsilon : ℚ := 1 / 2 ^ 52

/-- What the detector measures of one note; numbers that are not finite are absent. -/
structure CalibrationObservation where
  midiPitch : Option ℚ
  harmonicEnergy : Fin calibrationHarmonicCount → Option ℚ
  partialDetuningCents : Fin calibrationHarmonicCount → Option ℚ
  partialDetuningValidMask : BitVec 8
  confidence : Option ℚ

/-- An observation that passes the checks of `observe`. -/
structure CalibrationSample where
  fret : Fin calibrationFretCount
  cents : ℚ
  confidence : ℚ
  profile : Fin calibrationHarmonicCount → ℚ
  detuning : Fin calibrationHarmonicCount → Option ℚ

namespace CalibrationObservation

/-- A number is finite and not negative. What is not finite stands as `none`. -/
def finiteNonnegative : Option ℚ → Bool
  | none => false
  | some value => 0 ≤ value

/-- The energies as parts of their sum. -/
def normalizedProfile (observation : CalibrationObservation) :
    Option (Fin calibrationHarmonicCount → ℚ) :=
  let energy harmonic := (observation.harmonicEnergy harmonic).getD 0
  let total := ∑ harmonic, energy harmonic
  if (∀ harmonic, finiteNonnegative (observation.harmonicEnergy harmonic)) ∧ doubleEpsilon < total
  then some fun harmonic => energy harmonic / total
  else none

/-- A detuning that the mask marks valid, when it is finite and at most fifty cents. -/
def validDetuning (observation : CalibrationObservation) (harmonic : Fin calibrationHarmonicCount) :
    Option ℚ :=
  if observation.partialDetuningValidMask.getLsbD harmonic then
    (observation.partialDetuningCents harmonic).filter fun cents => |cents| ≤ 50
  else none

/-- The checks of `observe` on an observation of a string, up to its fret. The nearest fret has to
be on the neck and within 35 cents, and the confidence has to be high enough. -/
def sample (observation : CalibrationObservation) (string : Fin maxVoices) :
    Option CalibrationSample := do
  let pitch ← observation.midiPitch
  let confidence ← observation.confidence
  let profile ← observation.normalizedProfile
  let relative := pitch - m3OpenNotes string
  let rounded := roundAway relative
  let cents := (relative - rounded) * 100
  if 45 / 100 ≤ confidence ∧ confidence ≤ 1 ∧
      0 ≤ rounded ∧ rounded < calibrationFretCount ∧ |cents| ≤ 35 then
    some {
      fret := Fin.ofNat calibrationFretCount rounded.toNat
      cents, confidence, profile
      detuning := observation.validDetuning }
  else none

end CalibrationObservation

/-- `Accumulator`: the sums over the observations of a fret in one direction. Means and variances
are computed from these when a fret is finished. -/
structure CalibrationAccumulator where
  centsSum : ℚ := 0
  centsSquareSum : ℚ := 0
  confidenceSum : ℚ := 0
  harmonicSum : Fin calibrationHarmonicCount → ℚ := fun _ => 0
  harmonicSquareSum : Fin calibrationHarmonicCount → ℚ := fun _ => 0
  partialDetuningSum : Fin calibrationHarmonicCount → ℚ := fun _ => 0
  partialDetuningSquareSum : Fin calibrationHarmonicCount → ℚ := fun _ => 0
  partialDetuningCount : Fin calibrationHarmonicCount → ℕ := fun _ => 0
  count : ℕ := 0

namespace CalibrationAccumulator

/-- The sums with one observation more; the counters saturate. -/
def add (accumulator : CalibrationAccumulator) (sample : CalibrationSample) :
    CalibrationAccumulator where
  centsSum := accumulator.centsSum + sample.cents
  centsSquareSum := accumulator.centsSquareSum + sample.cents * sample.cents
  confidenceSum := accumulator.confidenceSum + sample.confidence
  harmonicSum harmonic := accumulator.harmonicSum harmonic + sample.profile harmonic
  harmonicSquareSum harmonic :=
    accumulator.harmonicSquareSum harmonic + sample.profile harmonic * sample.profile harmonic
  partialDetuningSum harmonic :=
    accumulator.partialDetuningSum harmonic + (sample.detuning harmonic).getD 0
  partialDetuningSquareSum harmonic :=
    let detuning := (sample.detuning harmonic).getD 0
    accumulator.partialDetuningSquareSum harmonic + detuning * detuning
  partialDetuningCount harmonic :=
    if (sample.detuning harmonic).isSome then
      min (accumulator.partialDetuningCount harmonic + 1) counterLimit
    else accumulator.partialDetuningCount harmonic
  count := min (accumulator.count + 1) counterLimit

/-- `add_sample`: nothing is added to a full accumulator. -/
def addSample (accumulator : CalibrationAccumulator) (sample : CalibrationSample) :
    CalibrationAccumulator :=
  if accumulator.count = counterLimit then accumulator else accumulator.add sample

/-- The sums with those of an established window. -/
def merge (accumulator pending : CalibrationAccumulator) : CalibrationAccumulator where
  centsSum := accumulator.centsSum + pending.centsSum
  centsSquareSum := accumulator.centsSquareSum + pending.centsSquareSum
  confidenceSum := accumulator.confidenceSum + pending.confidenceSum
  harmonicSum harmonic := accumulator.harmonicSum harmonic + pending.harmonicSum harmonic
  harmonicSquareSum harmonic :=
    accumulator.harmonicSquareSum harmonic + pending.harmonicSquareSum harmonic
  partialDetuningSum harmonic :=
    accumulator.partialDetuningSum harmonic + pending.partialDetuningSum harmonic
  partialDetuningSquareSum harmonic :=
    accumulator.partialDetuningSquareSum harmonic + pending.partialDetuningSquareSum harmonic
  partialDetuningCount harmonic :=
    min (accumulator.partialDetuningCount harmonic + pending.partialDetuningCount harmonic)
      counterLimit
  count := min (accumulator.count + pending.count) counterLimit

/-- The mean offset of the observations, in cents. -/
def meanCents (accumulator : CalibrationAccumulator) : ℚ :=
  accumulator.centsSum / accumulator.count

/-- The variance of the offset, from the sums of the values and of the squares. -/
def centsVariance (accumulator : CalibrationAccumulator) : ℚ :=
  max 0 (accumulator.centsSquareSum / accumulator.count -
    accumulator.meanCents * accumulator.meanCents)

/-- `profile_similarity`: the cosine between two mean profiles. -/
def profileSimilarity (sqrt : ℚ → ℚ) (left right : CalibrationAccumulator) : ℚ :=
  let leftMean harmonic := left.harmonicSum harmonic / left.count
  let rightMean harmonic := right.harmonicSum harmonic / right.count
  let dot := ∑ harmonic, leftMean harmonic * rightMean harmonic
  let leftNorm := ∑ harmonic, leftMean harmonic * leftMean harmonic
  let rightNorm := ∑ harmonic, rightMean harmonic * rightMean harmonic
  let denominator := sqrt (leftNorm * rightNorm)
  if left.count = 0 ∨ right.count = 0 then 0
  else if 0 < denominator then dot / denominator
  else 0

end CalibrationAccumulator

/-! ## The points of a string -/

/-- The points of all frets of a string. -/
abbrev StringPoints := Fin calibrationFretCount → StringCalibrationPoint

/-- A number that is clamped between bounds (`std::clamp`). -/
def clampTo (low high value : ℚ) : ℚ := max low (min high value)

/-- A fraction between zero and one in units of a 32767th. -/
def q15 (value : ℚ) : BitVec 16 :=
  BitVec.ofInt 16 (roundAway (clampTo 0 1 value * 32767))

/-- Cents in units of a 256th, at most fifty. -/
def centsQ8 (value : ℚ) : BitVec 16 :=
  BitVec.ofInt 16 (roundAway (clampTo (-50) 50 value * 256))

/-- The bits of the harmonics that are valid. -/
def harmonicMask (valid : Fin calibrationHarmonicCount → Bool) : BitVec 8 :=
  MaskSweep.maskOf
    (((List.finRange calibrationHarmonicCount).filter valid).map (Fin.castAdd 2))

/-- The two directions of a fret. -/
structure FretDirections where
  up : CalibrationAccumulator
  down : CalibrationAccumulator

namespace FretDirections

/-- A fret is measured when both directions were observed and agree. -/
def measures (directions : FretDirections) (sqrt : ℚ → ℚ) : Bool :=
  let up := directions.up
  let down := directions.down
  minimumObservationsPerDirection ≤ up.count && minimumObservationsPerDirection ≤ down.count &&
    |up.meanCents - down.meanCents| ≤ 24 && 72 / 100 ≤ up.profileSimilarity sqrt down

/-- The observations of a fret in both directions. -/
def totalCount (directions : FretDirections) : ℕ := directions.up.count + directions.down.count

/-- The mean of the detunings of a harmonic, when both directions have enough of them and
they do not scatter. -/
def detuning (directions : FretDirections) (sqrt : ℚ → ℚ)
    (harmonic : Fin calibrationHarmonicCount) : Option ℚ :=
  let up := directions.up
  let down := directions.down
  let count := up.partialDetuningCount harmonic + down.partialDetuningCount harmonic
  let detuning := (up.partialDetuningSum harmonic + down.partialDetuningSum harmonic) / count
  let squareMean :=
    (up.partialDetuningSquareSum harmonic + down.partialDetuningSquareSum harmonic) / count
  if minimumObservationsPerDirection ≤ up.partialDetuningCount harmonic ∧
      minimumObservationsPerDirection ≤ down.partialDetuningCount harmonic ∧
      sqrt (max 0 (squareMean - detuning * detuning)) ≤ 3 then
    some detuning
  else none

/-- How much the profiles of a fret scatter, over all of its harmonics. -/
def profileVariance (directions : FretDirections) : ℚ :=
  ∑ harmonic, (
    let sum := directions.up.harmonicSum harmonic + directions.down.harmonicSum harmonic
    let squareSum :=
      directions.up.harmonicSquareSum harmonic + directions.down.harmonicSquareSum harmonic
    let mean := sum / directions.totalCount
    max 0 (squareSum / directions.totalCount - mean * mean))

/-- The share of the confidence that is left when the profiles scatter. -/
def temporalStability (directions : FretDirections) : ℚ :=
  1 / (1 + 8 * directions.profileVariance)

/-- The point of a measured fret. The means of both directions are taken together, and the
confidence is lowered by how much the profiles scatter. -/
def measuredPoint (directions : FretDirections) (sqrt : ℚ → ℚ) : StringCalibrationPoint where
  centsOffsetQ8 := centsQ8 ((directions.up.meanCents + directions.down.meanCents) * (1 / 2))
  harmonicProfileQ15 harmonic :=
    q15 ((directions.up.harmonicSum harmonic + directions.down.harmonicSum harmonic) /
      directions.totalCount)
  partialDetuningQ8 harmonic := ((directions.detuning sqrt harmonic).map centsQ8).getD 0
  partialDetuningValidMask := harmonicMask fun harmonic => (directions.detuning sqrt harmonic).isSome
  confidenceQ15 :=
    q15 ((directions.up.confidenceSum + directions.down.confidenceSum) / directions.totalCount *
      directions.temporalStability)
  observationCount := BitVec.ofNat 16 (min directions.totalCount counterLimit)
  quality := .measured

/-- What `finalize` first makes of a fret. -/
def point (directions : FretDirections) (sqrt : ℚ → ℚ) : StringCalibrationPoint :=
  if directions.measures sqrt then directions.measuredPoint sqrt else {}

end FretDirections

/-- A point between two others, at a part of the way. Detunings are kept only where both of the
others have one, and the confidence is the lower of the two. -/
def interpolatedPoint (left right : StringCalibrationPoint) (amount : ℚ) :
    StringCalibrationPoint :=
  let between (left right : ℚ) : BitVec 16 :=
    BitVec.ofInt 16 (roundAway (left * (1 - amount) + right * amount))
  let bothValid (harmonic : Fin calibrationHarmonicCount) : Bool :=
    left.partialDetuningValidMask.getLsbD harmonic &&
      right.partialDetuningValidMask.getLsbD harmonic
  { centsOffsetQ8 := between left.centsOffsetQ8.toInt right.centsOffsetQ8.toInt
    harmonicProfileQ15 := fun harmonic =>
      between (left.harmonicProfileQ15 harmonic).toNat (right.harmonicProfileQ15 harmonic).toNat
    partialDetuningQ8 := fun harmonic =>
      if bothValid harmonic then
        between (left.partialDetuningQ8 harmonic).toInt (right.partialDetuningQ8 harmonic).toInt
      else 0
    partialDetuningValidMask := harmonicMask bothValid
    confidenceQ15 :=
      if right.confidenceQ15.toNat < left.confidenceQ15.toNat then right.confidenceQ15
      else left.confidenceQ15
    observationCount := 0
    quality := .interpolated }

namespace StringPoints

/-- The point of a fret by its number. -/
def pointAt (points : StringPoints) (fret : ℕ) : StringCalibrationPoint :=
  points (Fin.ofNat calibrationFretCount fret)

/-- The fret has a measured point. -/
def measuredAt (points : StringPoints) (fret : ℕ) : Bool :=
  (points.pointAt fret).quality = .measured

/-- How many frets of the string are measured. -/
def measuredCount (points : StringPoints) : ℕ :=
  ((List.range calibrationFretCount).filter points.measuredAt).length

/-- The search from a fret down to a measured one, as far as the open string. -/
def leftOf (points : StringPoints) : ℕ → ℕ
  | 0 => 0
  | fret + 1 => if points.measuredAt (fret + 1) then fret + 1 else points.leftOf fret

/-- The search up to a measured fret, from the one that has so many above it. -/
def rightOf (points : StringPoints) : ℕ → ℕ
  | 0 => calibrationFretCount - 1
  | above + 1 =>
      let fret := calibrationFretCount - 1 - (above + 1)
      if points.measuredAt fret then fret else points.rightOf above

/-- A fret that is not measured gets a point between its measured neighbours. -/
def interpolateFret (interpolation : StringPoints × ℕ) (fret : ℕ) : StringPoints × ℕ :=
  let points := interpolation.1
  let left := points.leftOf fret
  let right := points.rightOf (calibrationFretCount - 1 - fret)
  if points.measuredAt fret then interpolation
  else if points.measuredAt left ∧ points.measuredAt right ∧ left < right then
    let amount : ℚ := (fret - left : ℕ) / (right - left : ℕ)
    (Function.update points (Fin.ofNat calibrationFretCount fret)
      (interpolatedPoint (points.pointAt left) (points.pointAt right) amount), interpolation.2 + 1)
  else interpolation

/-- The points with every fret between the ends, and how many are interpolated. -/
def interpolate (points : StringPoints) : StringPoints × ℕ :=
  (List.range' 1 (calibrationFretCount - 2)).foldl interpolateFret (points, 0)

end StringPoints

/-! ## The calibrator -/

/-- The observations of a fret that may become stable. It grows while the observations stay on the
fret and near each other, and is given up otherwise. -/
structure StableWindow where
  pending : CalibrationAccumulator := {}
  minimumCents : ℚ := 0
  maximumCents : ℚ := 0
  fret : ℕ := calibrationFretCount
  phase : CalibrationSweepPhase := .idle
  established : Bool := false

namespace StableWindow

/-- The window with the cents of one observation more. -/
def widen (window : StableWindow) (sample : CalibrationSample) : StableWindow :=
  { window with
    minimumCents := min window.minimumCents sample.cents
    maximumCents := max window.maximumCents sample.cents }

/-- The observation keeps the window: it is of the same fret, near it, and does not make
the window too wide. -/
def keeps (window : StableWindow) (phase : CalibrationSweepPhase) (sample : CalibrationSample) :
    Bool :=
  let widened := window.widen sample
  window.fret = sample.fret && window.phase = phase &&
    widened.maximumCents - widened.minimumCents ≤ 8 && |sample.cents| ≤ 12

/-- `reset_window`: a window of one observation. -/
def opened (phase : CalibrationSweepPhase) (sample : CalibrationSample) : StableWindow where
  pending := CalibrationAccumulator.addSample {} sample
  minimumCents := sample.cents
  maximumCents := sample.cents
  fret := sample.fret
  phase := phase

/-- An observation is added until the window is established. -/
def add (window : StableWindow) (sample : CalibrationSample) : StableWindow :=
  if window.established then window
  else { window with pending := window.pending.addSample sample }

end StableWindow

/-- `CalibrationSweepStatus`, what the user sees of a sweep. -/
structure CalibrationSweepStatus where
  phase : CalibrationSweepPhase := .idle
  stringIndex : Fin maxVoices := firstString
  requestedFret : ℕ := 0
  highestFret : ℕ := 0
  measuredFrets : ℕ := 0
  interpolatedFrets : ℕ := 0
  acceptedObservations : BitVec 32 := 0
  rejectedObservations : BitVec 32 := 0

/-- `StringSweepCalibrator` with all that it measures. The arithmetic is exact here: sums do not
round, and nothing overflows. Only the root is taken as a parameter. -/
structure SweepCalibrator where
  bank : StringCalibrationBank := {}
  ascending : Fin calibrationFretCount → CalibrationAccumulator := fun _ => {}
  descending : Fin calibrationFretCount → CalibrationAccumulator := fun _ => {}
  stableWindow : StableWindow := {}
  status : CalibrationSweepStatus := {}
  stableWindowObservations : ℕ := 4
  openLockObservations : ℕ := 64

namespace SweepCalibrator

/-- A sweep is under way, in one direction or the other. -/
def active (calibrator : SweepCalibrator) : Bool :=
  calibrator.status.phase matches .waitingOpen | .ascending | .descending

/-- The number of observations in some seconds, within a sixteen-bit counter. -/
def observationsIn (least : ℕ) (seconds rate : ℚ) : ℕ :=
  max least (min counterLimit ⌈seconds * rate⌉.toNat)

/-- `begin`, with whether the sweep starts. A sweep starts only when none is under way, on a string
that there is and at a rate above zero. -/
def begin (calibrator : SweepCalibrator) (stringIndex : ℕ) (observationsPerSecond : Option ℚ) :
    Bool × SweepCalibrator :=
  match observationsPerSecond with
  | none => (false, calibrator)
  | some rate =>
      if inside : stringIndex < maxVoices then
        if calibrator.active ∨ rate ≤ 0 then (false, calibrator)
        else
          (true,
            { bank := calibrator.bank
              stableWindowObservations :=
                observationsIn minimumStableWindowObservations (80 / 1000) rate
              openLockObservations := observationsIn 1 (64 / 750) rate
              status := { phase := .waitingOpen, stringIndex := ⟨stringIndex, inside⟩ } })
      else (false, calibrator)

/-- The observation is refused, and counted when a sweep is under way. -/
def reject (calibrator : SweepCalibrator) : Bool × SweepCalibrator :=
  let status := calibrator.status
  (false,
    if calibrator.active then
      { calibrator with
        status := { status with rejectedObservations := status.rejectedObservations + 1 } }
    else calibrator)

/-- The end of a sweep: the measured frets, then those between them. Both ends of the neck and
enough frets between them have to be measured, or else the bank is left as it was. -/
def finalize (sqrt : ℚ → ℚ) (calibrator : SweepCalibrator) : SweepCalibrator :=
  let result : StringPoints := fun fret =>
    FretDirections.point ⟨calibrator.ascending fret, calibrator.descending fret⟩ sqrt
  let status := { calibrator.status with measuredFrets := result.measuredCount }
  if result.measuredAt 0 ∧ result.measuredAt (calibrationFretCount - 1) ∧
      minimumMeasuredFrets ≤ result.measuredCount then
    let interpolated := result.interpolate
    { calibrator with
      bank :=
        { points := Function.update calibrator.bank.points status.stringIndex interpolated.1
          calibratedStringMask :=
            calibrator.bank.calibratedStringMask ||| (1 <<< status.stringIndex.val) }
      status := { status with interpolatedFrets := interpolated.2, phase := .complete } }
  else { calibrator with status := { status with phase := .insufficient } }

/-- An observation while the open string is awaited. When enough of them have come, they have to be
steady, or the wait begins anew. -/
def observeOpen (sqrt : ℚ → ℚ) (calibrator : SweepCalibrator) (sample : CalibrationSample) :
    Bool × SweepCalibrator :=
  if sample.fret ≠ 0 ∨ 8 < |sample.cents| then calibrator.reject
  else
    let status := calibrator.status
    let opened := (calibrator.ascending 0).add sample
    let counted :=
      { calibrator with
        ascending := Function.update calibrator.ascending 0 opened
        status := { status with acceptedObservations := status.acceptedObservations + 1 } }
    (true,
      if opened.count < calibrator.openLockObservations then counted
      else if sqrt opened.centsVariance ≤ 6 then
        { counted with
          stableWindow := {}
          status := { counted.status with phase := .ascending, requestedFret := 1 } }
      else { counted with ascending := Function.update calibrator.ascending 0 {} })

/-- The sums of the fret in the present direction take those of the window. A window that has been
merged before is not merged again. -/
def mergeWindow (calibrator : SweepCalibrator) (fret : Fin calibrationFretCount) :
    SweepCalibrator :=
  let status := calibrator.status
  let pending := calibrator.stableWindow.pending
  if calibrator.stableWindow.established then calibrator
  else
    let merged :=
      { calibrator with
        stableWindow := { calibrator.stableWindow with established := true }
        status :=
          { status with
            acceptedObservations :=
              status.acceptedObservations + BitVec.ofNat 32 pending.count } }
    if status.phase = .descending then
      { merged with
        descending :=
          Function.update calibrator.descending fret ((calibrator.descending fret).merge pending) }
    else
      { merged with
        ascending :=
          Function.update calibrator.ascending fret ((calibrator.ascending fret).merge pending) }

/-- The fret is done: the next one is requested, or the sweep ends. The last fret turns the
direction, and the open string on the way down ends the sweep. -/
def advance (sqrt : ℚ → ℚ) (calibrator : SweepCalibrator) (fret : Fin calibrationFretCount) :
    SweepCalibrator :=
  let status := calibrator.status
  if status.phase = .ascending then
    let highest := { status with highestFret := max status.highestFret fret }
    if fret.val + 1 < calibrationFretCount then
      { calibrator with status := { highest with requestedFret := fret + 1 } }
    else
      -- The last fret is shared by both directions.
      { calibrator with
        descending := Function.update calibrator.descending fret (calibrator.ascending fret)
        status := { highest with phase := .descending, requestedFret := fret - 1 } }
  else if fret.val = 0 then calibrator.finalize sqrt
  else { calibrator with status := { status with requestedFret := fret - 1 } }

/-- An observation of a sweep that has locked the open string. It grows the window, completes it,
or opens a new one. An observation of another fret is refused and drops the window. -/
def observeFret (sqrt : ℚ → ℚ) (calibrator : SweepCalibrator) (sample : CalibrationSample) :
    Bool × SweepCalibrator :=
  let status := calibrator.status
  if sample.fret.val ≠ status.requestedFret then { calibrator with stableWindow := {} }.reject
  else if status.phase = .descending ∧ status.requestedFret = 0 ∧ 8 < |sample.cents| then
    calibrator.reject
  else if calibrator.stableWindow.keeps status.phase sample then
    let window := (calibrator.stableWindow.widen sample).add sample
    let observed := { calibrator with stableWindow := window }
    if window.established = false ∧
        window.pending.count < calibrator.stableWindowObservations then
      (true, observed)
    else
      (true,
        { (observed.mergeWindow sample.fret).advance sqrt sample.fret with stableWindow := {} })
  else (true, { calibrator with stableWindow := StableWindow.opened status.phase sample })

/-- `observe`: an observation that passes its checks goes to the open string as long as the sweep
waits for it, and to its fret afterwards. -/
def observe (sqrt : ℚ → ℚ) (calibrator : SweepCalibrator)
    (observation : CalibrationObservation) : Bool × SweepCalibrator :=
  if calibrator.active then
    match observation.sample calibrator.status.stringIndex with
    | none => calibrator.reject
    | some sample =>
        if calibrator.status.phase = .waitingOpen then calibrator.observeOpen sqrt sample
        else calibrator.observeFret sqrt sample
  else calibrator.reject

/-- `cancel`: the sums of a sweep are dropped, and what the bank holds stays. -/
def cancel (calibrator : SweepCalibrator) : SweepCalibrator :=
  let status := calibrator.status
  { calibrator with
    ascending := fun _ => {}
    descending := fun _ => {}
    stableWindow := {}
    status := if calibrator.active then { status with phase := .idle } else status }

/-- `clear`: the sweep is given up, and all strings lose their calibration. -/
def clear (calibrator : SweepCalibrator) : SweepCalibrator :=
  { calibrator.cancel with bank := {}, status := {} }

/-- `set_bank`: outside of a sweep the bank replaces the one at hand. -/
def setBank (calibrator : SweepCalibrator) (bank : StringCalibrationBank) : SweepCalibrator :=
  if calibrator.active then calibrator else { calibrator with bank }

end SweepCalibrator

/-- A call to the calibrator, with the arguments it comes with. -/
inductive SweepCall
  | begin (stringIndex : ℕ) (observationsPerSecond : Option ℚ)
  | observe (observation : CalibrationObservation)
  | cancel
  | clear
  | setBank (bank : StringCalibrationBank)

namespace SweepCalibrator

/-- The calibrator after a call. What the calls return is left out, since no later call reads it.
-/
def call (sqrt : ℚ → ℚ) (calibrator : SweepCalibrator) : SweepCall → SweepCalibrator
  | .begin stringIndex observationsPerSecond =>
      (calibrator.begin stringIndex observationsPerSecond).2
  | .observe observation => (calibrator.observe sqrt observation).2
  | .cancel => calibrator.cancel
  | .clear => calibrator.clear
  | .setBank bank => calibrator.setBank bank

/-- The calibrator as a machine that reports nothing. -/
def machine (sqrt : ℚ → ℚ) : Transducer SweepCall SweepCalibrator Empty where
  step calibrator call := (calibrator.call sqrt call, [])

end SweepCalibrator

end M3Midi
