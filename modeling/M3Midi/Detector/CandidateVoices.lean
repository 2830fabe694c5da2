import M3Midi.Detector.Configuration
import M3Midi.Detector.LaneProjection
import M3Midi.Foundation.Rounding
import M3Midi.Ledger.GeneratedNoteLedger

/-! # The voices of the candidates

A decision visits the candidate pitches one after the other, changes what it keeps for each
and appends the transitions of its voice to a buffer of fixed size. What is appended to a
full buffer is lost, only a release looks for room first.
-/

namespace M3Midi

open Foundation

/-- The note of a candidate that has emitted none (`kTunerNoSignalNote`). -/
def tunerNoSignalNote : ℕ := 128

/-- What the detector keeps for a candidate pitch between decisions; fields that neither
decide about transitions nor follow from them are left out. -/
structure CandidateState where
  attackTicks : ℕ := 0
  releaseTicks : ℕ := 0
  evidenceTicks : ℕ := 0
  evidenceGapTicks : ℕ := 0
  ageTicks : ℕ := 0
  active : Bool := false
  assignedString : Option (Fin maxVoices) := none
  assignedStringMask : StringMask := 0
  midiVoiceMask : StringMask := 0
  emittedNote : ℕ := tunerNoSignalNote
  calibratedOutputTarget : ℕ := tunerNoSignalNote
  calibratedOutputTicks : ℕ := 0
  spectralLaneMask : StringMask := 0
  continuityLaneMask : StringMask := 0
  deriving DecidableEq, Repr

namespace FixedVector

variable {Value : Type*}

/-- `push_back` of a vector with a fixed capacity; the flag tells whether there was room. -/
def pushBack (capacity : ℕ) (items : List Value) (value : Value) : Bool × List Value :=
  if items.length ≥ capacity then (false, items) else (true, items ++ [value])

end FixedVector

/-- What `append_transition` is given. -/
structure AppendedTransition where
  kind : TransitionKind
  note : ℕ
  velocity : ℕ := 0
  voiceId : ℕ := unassignedVoiceId
  deriving DecidableEq, Repr

/-- A decision in the making. `requested` holds all that was appended, stored or lost. The states
are those of all candidates, and the count is that of the voices that sound so far. -/
structure CandidateDecision (count : ℕ) where
  states : Fin count → CandidateState
  transitions : List VoiceTransition := []
  requested : List AppendedTransition := []
  transitionSequence : ℕ := 0
  activeCount : ℕ := 0

namespace CandidateDecision

variable {count : ℕ} (decision : CandidateDecision count)

/-- `append_transition`: a transition that no longer fits is dropped, but it is requested and
counted all the same. -/
def appendTransition (appended : AppendedTransition) : CandidateDecision count :=
  { decision with
    transitions := (FixedVector.pushBack maxTickTransitions decision.transitions
      { sampleOffset := 0
        kind := appended.kind
        note := appended.note
        velocity := appended.velocity
        sequence := decision.transitionSequence
        voiceId := appended.voiceId }).2
    requested := decision.requested ++ [appended]
    transitionSequence := (decision.transitionSequence + 1) % 2 ^ 32 }

/-- Transitions, one after the other. -/
def appendAll (appended : List AppendedTransition) : CandidateDecision count :=
  appended.foldl appendTransition decision

/-- The decision keeps something else for a candidate. -/
def setState (candidate : Fin count) (state : CandidateState) : CandidateDecision count :=
  { decision with states := Function.update decision.states candidate state }

/-- The decision counts one more active candidate. -/
def countActive : CandidateDecision count :=
  { decision with activeCount := decision.activeCount + 1 }

end CandidateDecision

/-- The strings of a mask in ascending order. -/
def stringsOf (mask : StringMask) : List (Fin maxVoices) :=
  (List.finRange maxVoices).filter fun string => mask.getLsbD string

/-- The assigned strings; a candidate without a group has its one string. -/
def CandidateState.assignedStrings (state : CandidateState) : StringMask :=
  if state.assignedStringMask = 0 then
    match state.assignedString with
    | some string => LaneMask.single string
    | none => 0
  else state.assignedStringMask

/-- `projected_output_string_mask`: the assigned strings, which the spectrum may replace and a
continuing group may widen. -/
def CandidateState.projectedOutputStringMask (state : CandidateState) : StringMask :=
  let projected := state.assignedStrings
  let projected := if stringCount projected = 1 ∧ state.spectralLaneMask ≠ 0 then
    state.spectralLaneMask else projected
  if projected ≠ 0 ∧ state.continuityLaneMask ≠ 0 ∧
      projected &&& ~~~state.continuityLaneMask = 0 then
    state.continuityLaneMask
  else projected

namespace DetectorConfiguration

variable (detector : DetectorConfiguration)

/-- Does every voice go out on the lanes of its strings? -/
def laned : Bool := detector.profileMode = .m3 && detector.midiRouting = .perVoice

/-- A time in decisions, at least one and at most a limit. -/
def decisionsIn (seconds : ℚ) (limit : ℕ) : ℕ :=
  max 1 (min ⌈seconds * detector.sampleRate / decisionQuantum⌉₊ limit)

/-- `kSingleVoiceEvidenceSeconds` -/
def singleVoiceEvidenceSeconds : ℚ := 40 / 1000

/-- `kMultiVoiceEvidenceSeconds` -/
def multiVoiceEvidenceSeconds : ℚ := 50 / 1000

/-- `kAttackReferenceSampleRate` -/
def attackReferenceSampleRate : ℚ := 48000

/-- `kMinimumReleaseSeconds` -/
def minimumReleaseSeconds : ℚ := 50 / 1000

/-- `kMaximumReleaseSeconds` -/
def maximumReleaseSeconds : ℚ := 220 / 1000

/-- The decisions that the evidence of a voice takes, for one voice or several. -/
def candidateEvidenceDecisions (multiVoice : Bool) : ℕ :=
  detector.decisionsIn
    (if multiVoice then multiVoiceEvidenceSeconds else singleVoiceEvidenceSeconds) 255

/-- The decisions that an attack takes. It depends on the response, and on the rate only by
rounding. -/
def attackDecisions : ℕ :=
  detector.decisionsIn
    ((2 + detector.response / 20 : ℕ) * decisionQuantum / attackReferenceSampleRate) 255

/-- The decisions that an ordinary release takes, between its least and its greatest time. -/
def releaseDecisions : ℕ :=
  detector.decisionsIn
    (minimumReleaseSeconds +
      detector.response / 100 * (maximumReleaseSeconds - minimumReleaseSeconds)) 65535

/-- The velocity of a level in decibels. -/
def dynamicVelocity (decibels : ℚ) : ℕ :=
  match detector.velocityMode with
  | .fixed => detector.fixedVelocity
  | .dynamic => (roundAway (1 + max 0 (min ((decibels + 60) / 54) 1) * 126)).toNat

end DetectorConfiguration

namespace CandidateDecision

variable {count : ℕ} (detector : DetectorConfiguration) (decision : CandidateDecision count)
  (candidate : Fin count)

/-- The pitch of a candidate. -/
def detectedNote : ℕ := detector.lowestNote + candidate

/-- The note that a voice puts out: the corrected one, if there is one. -/
def candidateOutputNote : ℕ :=
  let emitted := (decision.states candidate).emittedNote
  if emitted < 128 then emitted else detectedNote detector candidate

/-- A voice changes its note; each of its lanes is closed and opened again. A note that is none, or
the one it has already, changes nothing. -/
def changeCandidateOutputNote (velocity outputNote : ℕ) : CandidateDecision count :=
  let state := decision.states candidate
  let previousNote := decision.candidateOutputNote detector candidate
  if outputNote ≥ 128 then decision
  else if previousNote = outputNote then decision
  else
    let appended := match detector.midiRouting with
      | .perVoice => (stringsOf state.midiVoiceMask).flatMap fun lane : Fin maxVoices =>
          [{ kind := .noteOff, note := previousNote, voiceId := lane },
            { kind := .noteOn, note := outputNote, velocity := velocity, voiceId := lane }]
      | .single =>
          [{ kind := .noteOff, note := previousNote },
            { kind := .noteOn, note := outputNote, velocity := velocity }]
    (decision.appendAll appended).setState candidate { state with emittedNote := outputNote }

/-- A voice begins; with lanes it needs one at least. Otherwise it is refused, and the candidate
keeps attacking. -/
def appendCandidateNoteOn (velocity : ℕ) : Bool × CandidateDecision count :=
  let state := decision.states candidate
  let note := detectedNote detector candidate
  if detector.laned then
    let desired := state.assignedStrings
    if desired = 0 then (false, decision)
    else
      (true, (decision.appendAll ((stringsOf desired).map fun string : Fin maxVoices =>
        { kind := .noteOn, note := note, velocity := velocity, voiceId := string })).setState
          candidate { state with emittedNote := note, midiVoiceMask := desired })
  else
    (true, (decision.appendAll [{ kind := .noteOn, note := note, velocity := velocity }]).setState
      candidate { state with emittedNote := note })

/-- A voice ends, if the buffer has room for all of it. Without room it sounds on, and is asked
again in the next decision. -/
def appendCandidateNoteOff : Bool × CandidateDecision count :=
  let state := decision.states candidate
  let note := decision.candidateOutputNote detector candidate
  if detector.laned then
    let required := stringCount state.midiVoiceMask
    if required > maxTickTransitions - decision.transitions.length then (false, decision)
    else
      (true, decision.appendAll ((stringsOf state.midiVoiceMask).map fun string : Fin maxVoices =>
        { kind := .noteOff, note := note, voiceId := string }))
  else if decision.transitions.length = maxTickTransitions then (false, decision)
  else (true, decision.appendAll [{ kind := .noteOff, note := note }])

end CandidateDecision

end M3Midi
