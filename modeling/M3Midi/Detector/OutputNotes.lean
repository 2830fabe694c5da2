import M3Midi.Calibration.NoteProjection
import M3Midi.Detector.DecisionEvidence

/-! # Corrected output notes

In a chord of the M3 profile a settled note on one string may turn out to be the neighbour of
the pitch that was detected. When two decisions agree on that, its voice is corrected, and when
two decisions no longer do, the correction is taken back. No voice is corrected to a note that
another candidate has out or has been selected for.
-/

namespace M3Midi

open Foundation

namespace DetectorConfiguration

/-- `kM3CalibratedOutputMinimumAgeSeconds` -/
def calibratedOutputMinimumAgeSeconds : ℚ := 50 / 1000

/-- `kM3CalibratedOutputMinimumImprovementCents` -/
def calibratedOutputMinimumImprovementCents : ℚ := 50

/-- `kM3CalibratedOutputMaximumProjectedErrorCents` -/
def calibratedOutputMaximumProjectedErrorCents : ℚ := 15

/-- `kM3CalibratedOutputConsensusDecisions` -/
def calibratedOutputConsensusDecisions : ℕ := 2

/-- That age in decisions. -/
def calibratedOutputMinimumAge (detector : DetectorConfiguration) : ℕ :=
  detector.decisionsIn calibratedOutputMinimumAgeSeconds 65535

end DetectorConfiguration

/-- The candidate is about to get no other note. -/
def CandidateState.clearTarget (state : CandidateState) : CandidateState :=
  { state with calibratedOutputTarget := tunerNoSignalNote, calibratedOutputTicks := 0 }

/-- A first decision speaks for a note. -/
def CandidateState.aim (state : CandidateState) (note : ℕ) : CandidateState :=
  { state with calibratedOutputTarget := note, calibratedOutputTicks := 1 }

/-- One more decision speaks for the note. -/
def CandidateState.agree (state : CandidateState) : CandidateState :=
  { state with calibratedOutputTicks := min (state.calibratedOutputTicks + 1) 255 }

namespace CandidateDecision

open DetectorConfiguration

variable {count : ℕ} (detector : DetectorConfiguration) (evidence : DecisionEvidence count)
  (selected : Fin count → Bool) (decision : CandidateDecision count) (candidate : Fin count)

/-- The neighbouring note whose measured centre the pitch is close to. -/
def trustedProjection (string : Fin maxVoices) (cents : ℚ) : Option ℕ :=
  let note := detectedNote detector candidate
  let projection := projectCalibratedNote {
    note := note
    centsQ8 := max (-32768) (min (roundAway (cents * 256)) 32767)
    centsValid := true
    stringIndex := string
    bank := evidence.bank
    maximumFret := detector.maxFret
    minimumErrorImprovementCents := some calibratedOutputMinimumImprovementCents }
  if projection.changed then
    match evidence.bank.measuredPoint string (projection.note - m3OpenNotes string : ℤ) with
    | none => none
    | some point =>
        if |100 * note + cents - measuredCenter projection.note point| ≤
            calibratedOutputMaximumProjectedErrorCents then
          some projection.note
        else none
  else none

/-- Another candidate has the note out, or has been selected for it. -/
def collides (note : ℕ) : Bool :=
  (List.finRange count).any fun other =>
    other ≠ candidate &&
      ((selected other && detectedNote detector other = note) ||
        ((decision.states other).active && decision.candidateOutputNote detector other = note))

/-- Nothing speaks for another note than the detected one. A corrected voice goes back to its
detected note after enough decisions. -/
def withdrawOutputNote (velocity : ℕ) : CandidateDecision count :=
  let state := decision.states candidate
  let detected := detectedNote detector candidate
  if decision.candidateOutputNote detector candidate = detected then
    decision.setState candidate state.clearTarget
  else if state.calibratedOutputTarget ≠ detected then
    decision.setState candidate (state.aim detected)
  else
    let agreed := decision.setState candidate state.agree
    if state.agree.calibratedOutputTicks ≥ calibratedOutputConsensusDecisions then
      let changed := agreed.changeCandidateOutputNote detector candidate velocity detected
      changed.setState candidate (changed.states candidate).clearTarget
    else agreed

/-- A neighbouring note is closer to the pitch. The voice changes its note after enough decisions
that agree. -/
def correctOutputNote (velocity note : ℕ) : CandidateDecision count :=
  let state := decision.states candidate
  if decision.collides detector selected candidate note then
    let changed := decision.changeCandidateOutputNote detector candidate velocity
      (detectedNote detector candidate)
    changed.setState candidate (changed.states candidate).clearTarget
  else if state.calibratedOutputTarget ≠ note then decision.setState candidate (state.aim note)
  else
    let agreed := decision.setState candidate state.agree
    if state.agree.calibratedOutputTicks < calibratedOutputConsensusDecisions then agreed
    else agreed.changeCandidateOutputNote detector candidate velocity note

/-- The candidate's turn in the loop of `update_calibrated_output_notes`. Only selected voices that
have sounded for a while, beside another selected one and on a single string, are corrected. -/
def updateCalibratedOutputNote (selectedNoteCount velocity : ℕ) : CandidateDecision count :=
  let state := decision.states candidate
  let found := evidence.candidate candidate
  if selected candidate = false ∨ state.active = false ∨ selectedNoteCount < 2 ∨
      state.ageTicks < detector.calibratedOutputMinimumAge ∨
      found.outputProjectionValid = false then
    decision.setState candidate state.clearTarget
  else
    match stringsOf state.assignedStrings, found.cents with
    | [string], some cents =>
        match trustedProjection detector evidence candidate string cents with
        | none => decision.withdrawOutputNote detector candidate velocity
        | some note => decision.correctOutputNote detector selected candidate velocity note
    | _, _ => decision.setState candidate state.clearTarget

/-- `update_calibrated_output_notes`: a voice that has been off its note for long enough gets the
neighbouring one. -/
def updateCalibratedOutputNotes (selectedNoteCount velocity : ℕ) : CandidateDecision count :=
  if detector.profileMode ≠ .m3 then decision
  else
    (List.finRange count).foldl (fun decision candidate =>
      decision.updateCalibratedOutputNote detector evidence selected candidate selectedNoteCount
        velocity) decision

end CandidateDecision

end M3Midi
