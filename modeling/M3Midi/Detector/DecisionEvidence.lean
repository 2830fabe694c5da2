import M3Midi.Calibration.Bank
import M3Midi.Detector.CandidateVoices
import M3Midi.Detector.StringAssignment

/-! # What a decision is given

The resonators bring energies, and the stages between the selection and the voices bring
strings, cents and groups. A decision is a function of these and of what it keeps; here is
what it reads off them at once: peaks and shadows among the energies, and whether the frame
counts as quiet.
-/

namespace M3Midi

open Foundation

/-- `kSilenceEnergyRatio`, below which the fast energy counts as silence beside the slow one. -/
def silenceEnergyRatio : ℚ := 1 / 2

/-- `kAttackEnergyRatio`, from which the fast energy counts as an attack. -/
def attackEnergyRatio : ℚ := 95 / 100

/-- `kCandidateCoherenceRatio`, the part of the energy that a candidate has to account for. -/
def candidateCoherenceRatio : ℚ := 5 / 100

/-- `kHarmonicFundamentalRatio`, below which a fundamental may be another one's harmonic. -/
def harmonicFundamentalRatio : ℚ := 7 / 10

/-- What the stages of a decision find about a candidate. The stages themselves are left out: a
decision is proved right for whatever they find. -/
structure CandidateEvidence where
  /-- The weighted energies of the harmonics, and the energy of the first. -/
  score : ℚ := 0
  fundamental : ℚ := 0
  /-- The candidate is one of those that `select_m3_feasible_candidates` selects. -/
  feasible : Bool := false
  /-- `is_resolved_unison_resume_candidate` -/
  resumable : Bool := false
  /-- What the string assignment and the unison inference leave. -/
  assignedString : Option (Fin maxVoices) := none
  assignedStringMask : StringMask := 0
  spectralLaneMask : StringMask := 0
  /-- What `update_group_continuity_trackers` leaves at the end. -/
  continuityLaneMask : StringMask := 0
  outputProjectionValid : Bool := false
  /-- Absent when not finite. -/
  cents : Option ℚ := none
  selectorGroupMask : StringMask := 0
  /-- `has_decisive_calibrated_shape` -/
  decisiveCalibratedShape : Bool := false
  calibrationSimilarity : Fin maxVoices → ℚ := fun _ => 0
  unisonDropoutDecisions : ℕ := 0

/-- What a decision is given. Energies and scores are exact numbers here, which may be large but
are never infinite or undefined. -/
structure DecisionEvidence (count : ℕ) where
  fastEnergy : ℚ := 0
  slowEnergy : ℚ := 0
  signalFloor : ℚ := 0
  signalSamples : ℕ := 0
  /-- The energy falls as fast as a muted string's. -/
  rapidMute : Bool := false
  /-- The level of the fast energy. -/
  decibels : ℚ := 0
  bank : StringCalibrationBank := {}
  candidate : Fin count → CandidateEvidence

section Peaks

variable {count : ℕ}

/-- An entry of an array that is zero past its end. -/
def entryAt (values : Fin count → ℚ) (index : ℕ) : ℚ :=
  if inRange : index < count then values ⟨index, inRange⟩ else 0

/-- The entry below; zero where there is none. -/
def entryBelow (values : Fin count → ℚ) (candidate : Fin count) : ℚ :=
  if (candidate : ℕ) = 0 then 0 else entryAt values (candidate - 1)

/-- The entry above; zero past the end. -/
def entryAbove (values : Fin count → ℚ) (candidate : Fin count) : ℚ :=
  entryAt values (candidate + 1)

/-- No entry beside it is larger, and the one above is smaller. -/
def peaks (values : Fin count → ℚ) (candidate : Fin count) : Bool :=
  ((candidate : ℕ) = 0 || entryBelow values candidate ≤ values candidate) &&
    (candidate + 1 ≥ count || entryAbove values candidate < values candidate)

variable (scores fundamentals : Fin count → ℚ) (candidate : Fin count)

/-- `is_local_peak` -/
def isLocalPeak : Bool :=
  scoreEpsilon < scores candidate && peaks scores candidate

/-- `has_direct_fundamental_peak`: a peak among the fundamentals, with its share of the score. -/
def hasDirectFundamentalPeak : Bool :=
  scoreEpsilon < scores candidate && 20 / 100 * scores candidate ≤ fundamentals candidate &&
    peaks fundamentals candidate

/-- `has_m3_candidate_evidence`: a fundamental on a plateau of energy, a peak of energy whose
fundamental is missing, or a peak at the lowest candidate. -/
def hasM3CandidateEvidence : Bool :=
  let score := scores candidate
  let fundamental := fundamentals candidate
  let fundamentalPeak := entryBelow fundamentals candidate ≤ fundamental &&
    entryAbove fundamentals candidate < fundamental
  let energyPlateau := 85 / 100 * entryBelow scores candidate ≤ score &&
    85 / 100 * entryAbove scores candidate ≤ score
  let localEnergyPeak := 105 / 100 * entryBelow scores candidate ≤ score &&
    105 / 100 * entryAbove scores candidate ≤ score
  let missingFundamental := fundamental ≤ 15 / 100 * score
  scoreEpsilon < score &&
    ((fundamentalPeak && energyPlateau) || (missingFundamental && localEnergyPeak) ||
      ((candidate : ℕ) = 0 && isLocalPeak scores candidate))

/-- Semitones between two candidates. -/
def candidateDistance (first second : Fin count) : ℕ :=
  max (first : ℕ) second - min (first : ℕ) second

/-- The candidate is a harmonic of one that has been selected, and too weak to be a note. -/
def isHarmonicShadow (selected : Fin count) : Bool :=
  candidate ≠ selected && scoreEpsilon < fundamentals selected &&
    harmonicIntervals.contains (candidateDistance candidate selected) &&
    fundamentals candidate < fundamentals selected * harmonicFundamentalRatio

end Peaks

namespace DecisionEvidence

variable {count : ℕ} (evidence : DecisionEvidence count) (detector : DetectorConfiguration)
  (states : Fin count → CandidateState)

/-- Some voice sounds. -/
def hadActiveVoice : Bool := (List.finRange count).any fun candidate => (states candidate).active

/-- Some voice is a resolved group of strings, which may resume. -/
def hadActiveMultiStringGroup : Bool :=
  (List.finRange count).any fun candidate => (evidence.candidate candidate).resumable

/-- `has_minimum_signal_evidence` -/
def minimumEvidence : Bool :=
  0 < detector.sampleRate && evidence.signalSamples ≠ 0 &&
    (evidence.hadActiveMultiStringGroup ||
      detector.sampleRate * DetectorConfiguration.singleVoiceEvidenceSeconds ≤
        evidence.signalSamples)

/-- Only a resolved group brings the signal back before its time. -/
def activeResume : Bool :=
  evidence.minimumEvidence detector && evidence.hadActiveMultiStringGroup &&
    !decide (detector.sampleRate * DetectorConfiguration.singleVoiceEvidenceSeconds ≤
      evidence.signalSamples)

/-- Nothing is selected in a frame that is quiet at first. -/
def quietAtFirst : Bool :=
  !evidence.minimumEvidence detector || evidence.fastEnergy < evidence.signalFloor ||
    ((!hadActiveVoice states || evidence.rapidMute) &&
      evidence.fastEnergy < evidence.slowEnergy * silenceEnergyRatio)

/-- The energy that a candidate has to account for. -/
def threshold : ℚ := evidence.fastEnergy * candidateCoherenceRatio

/-- In a frame that is quiet at first the energies are not looked at. -/
def scores (candidate : Fin count) : ℚ :=
  if evidence.quietAtFirst detector states then 0 else (evidence.candidate candidate).score

/-- The same for the energies of the fundamentals. -/
def fundamentals (candidate : Fin count) : ℚ :=
  if evidence.quietAtFirst detector states then 0 else (evidence.candidate candidate).fundamental

/-- There has been signal for long enough to attack. -/
def attackEnergy : Bool :=
  !decide (evidence.fastEnergy < evidence.slowEnergy * attackEnergyRatio)

end DecisionEvidence

end M3Midi
