import M3Midi.Detector.GreedySelection
import M3Midi.Detector.OutputNotes

/-! # The decision

A decision selects candidates, corrects the notes of their voices, keeps track of the evidence
of those that do not sound, goes on with or ends the voices that do, and begins new ones. Only
the transitions and what decides about them is modelled; the energies, the strings and the
groups are what the decision is given.
-/

namespace M3Midi

open Foundation

/-- A counter of a byte, and one of two bytes. -/
def byteLimit : ℕ := 255

/-- The greatest value of a counter of two bytes. -/
def wordLimit : ℕ := 65535

/-- `kCandidateEvidenceDropoutDecisions`: evidence survives so many decisions without it. -/
def candidateEvidenceDropoutDecisions : ℕ := 2

/-- `kCandidateMigrationSemitones`: what lies within so many semitones may be the same voice. -/
def candidateMigrationSemitones : ℕ := 2

/-- `kM3AdjacentHandoffOnsetSeconds`, in which a new candidate may take over a voice beside it. -/
def adjacentHandoffOnsetSeconds : ℚ := 100 / 1000

/-- What the detector keeps for its voices between decisions. -/
structure VoiceState (count : ℕ) where
  states : Fin count → CandidateState := fun _ => {}
  transitionSequence : ℕ := 0

section Selection

variable {count : ℕ} (detector : DetectorConfiguration) (evidence : DecisionEvidence count)
  (states : Fin count → CandidateState)

/-- What the general profile selects from. -/
def greedySelector : GreedySelector count where
  scores := evidence.scores detector states
  fundamentals := evidence.fundamentals detector states
  active candidate := (states candidate).active
  threshold := evidence.threshold
  maxPolyphony := detector.maxPolyphony

/-- The selection before the evidence is counted. -/
def selectedAtFirst (candidate : Fin count) : Bool :=
  let selected :=
    if evidence.quietAtFirst detector states then false
    else match detector.profileMode with
      | .m3 => (evidence.candidate candidate).feasible
      | .general => (greedySelector detector evidence states).select.contains candidate
  -- `filter_resume_selection`
  if evidence.activeResume detector then selected && (evidence.candidate candidate).resumable
  else selected

/-- How many candidates are selected at first. -/
def selectedVoiceCount : ℕ :=
  ((List.finRange count).filter (selectedAtFirst detector evidence states)).length

/-- There has been signal for long enough to select what has been selected. -/
def enoughEvidence : Bool :=
  evidence.minimumEvidence detector &&
    (selectedVoiceCount detector evidence states ≤ 1 ||
      detector.sampleRate * DetectorConfiguration.multiVoiceEvidenceSeconds ≤
        evidence.signalSamples)

/-- A candidate is selected for good only when there is enough evidence. -/
def selectedCandidate (candidate : Fin count) : Bool :=
  enoughEvidence detector evidence states && selectedAtFirst detector evidence states candidate

/-- A decision is quiet when its input is, or when the evidence is not enough. -/
def quietDecision : Bool :=
  evidence.quietAtFirst detector states || !enoughEvidence detector evidence states

end Selection

/-- What the loops over the voices are given. They are computed once for each decision, before any
voice changes. -/
structure DecisionFrame (count : ℕ) where
  detector : DetectorConfiguration
  evidence : DecisionEvidence count
  scores : Fin count → ℚ
  fundamentals : Fin count → ℚ
  selected : Fin count → Bool
  selectedVoiceCount : ℕ
  quiet : Bool
  hadActiveVoice : Bool
  velocity : ℕ

namespace DecisionFrame

variable {count : ℕ} (frame : DecisionFrame count)

section Evidence

variable (states : Fin count → CandidateState) (candidate : Fin count)

/-- The candidate has a fundamental of its own. -/
def directObservation : Bool :=
  hasDirectFundamentalPeak frame.scores frame.fundamentals candidate

/-- In the M3 profile a selected candidate is also observed by weaker evidence. -/
def fallbackObservation : Bool :=
  frame.selected candidate && frame.detector.profileMode = .m3 &&
    (frame.detector.maxFret ≤ 2 || isLocalPeak frame.scores candidate ||
      hasM3CandidateEvidence frame.scores frame.fundamentals candidate)

/-- A selected candidate close by, away from every voice that sounds. -/
def migratingObservation : Bool :=
  frame.hadActiveVoice && frame.detector.profileMode = .m3 &&
    (List.finRange count).any fun probe =>
      frame.selected probe &&
        (!(List.finRange count).any fun active =>
          (states active).active &&
            candidateDistance probe active ≤ candidateMigrationSemitones) &&
        candidateDistance probe candidate ≤ candidateMigrationSemitones

/-- The evidence of a candidate that does not sound. It is counted as long as some observation
speaks for the candidate, and survives short gaps. -/
def updateEvidence : CandidateState :=
  let state := states candidate
  if state.active then state
  else if frame.directObservation candidate = false ∧
      frame.fallbackObservation candidate = false ∧
      frame.migratingObservation states candidate = false then
    if state.evidenceTicks ≠ 0 ∧ state.evidenceGapTicks < candidateEvidenceDropoutDecisions then
      { state with evidenceGapTicks := state.evidenceGapTicks + 1 }
    else { state with evidenceTicks := 0, evidenceGapTicks := 0 }
  else if frame.hadActiveVoice = false then { state with evidenceTicks := byteLimit }
  else if state.evidenceTicks < byteLimit then
    { state with evidenceGapTicks := 0, evidenceTicks := state.evidenceTicks + 1 }
  else state

end Evidence

section Handoff

variable (decision : CandidateDecision count) (candidate : Fin count)

/-- The strings that a voice holds, on MIDI or by assignment. -/
def ownedStrings (state : CandidateState) : StringMask :=
  let owned := state.assignedStringMask ||| state.midiVoiceMask
  if owned = 0 then state.assignedStrings else owned

/-- A voice on one string gives way to a group that sounds there already. -/
def shouldHandoffToResolvedGroup : Bool :=
  let owned := ownedStrings (decision.states candidate)
  !frame.selected candidate && (decision.states candidate).active && stringCount owned = 1 &&
    (List.finRange count).any fun other =>
      let group := (frame.evidence.candidate other).selectorGroupMask
      other ≠ candidate && frame.selected other && (decision.states other).active &&
        2 ≤ stringCount group && stringCount group ≤ 4 && group &&& owned ≠ 0

/-- The playable string with a measured fret whose profile is the most similar. -/
def bestCalibratedString (other : Fin count) : Option (Fin maxVoices) :=
  let note := CandidateDecision.detectedNote frame.detector other
  let similarity := (frame.evidence.candidate other).calibrationSimilarity
  ((List.finRange maxVoices).foldl (fun (best : ℚ × Option (Fin maxVoices))
      (string : Fin maxVoices) =>
    if (playableMask frame.detector.maxFret note).getLsbD string &&
        (frame.evidence.bank.measuredPoint string (note - m3OpenNotes string : ℤ)).isSome &&
        best.1 < similarity string then
      (similarity string, some string)
    else best) ((-1 : ℚ), none)).2

/-- That time in decisions. -/
def handoffOnsetTicks : ℕ := frame.detector.decisionsIn adjacentHandoffOnsetSeconds wordLimit

/-- A candidate beside this one, with a fundamental of its own, takes over. -/
def replaces (other : Fin count) : Bool :=
  let replacement := decision.states other
  let owned := ownedStrings (decision.states candidate)
  other ≠ candidate && frame.selected other &&
    replacement.ageTicks ≤ frame.handoffOnsetTicks &&
    (replacement.active ||
      (2 ≤ frame.selectedVoiceCount &&
        (frame.evidence.candidate other).decisiveCalibratedShape &&
        (frame.bestCalibratedString other).any fun string => owned.getLsbD string)) &&
    candidateDistance other candidate = 1 &&
    hasDirectFundamentalPeak frame.scores frame.fundamentals other

/-- A voice that is not selected gives way to a new one beside it. -/
def shouldHandoffAdjacent : Bool :=
  let owned := ownedStrings (decision.states candidate)
  if frame.quiet || frame.detector.profileMode ≠ .m3 ||
      !(decision.states candidate).active || frame.selected candidate then false
  else
    match (List.finRange count).find? (frame.replaces decision candidate) with
    | none => false
    | some other =>
        stringCount owned ≤ 1 ||
          (stringCount owned = 2 &&
            !hasDirectFundamentalPeak frame.scores frame.fundamentals candidate &&
            frame.scores candidate ≤ frame.scores other)

/-- The voice gives way in one way or the other. -/
def handsOff : Bool :=
  frame.shouldHandoffToResolvedGroup decision candidate ||
    frame.shouldHandoffAdjacent decision candidate

end Handoff

section Voices

variable (decision : CandidateDecision count) (candidate : Fin count)

/-- The decisions after which an unselected voice ends. A unison may drop out for longer. -/
def candidateReleaseDecisions : ℕ :=
  let ordinary := frame.detector.releaseDecisions
  let members := (decision.states candidate).assignedStringMask
  if frame.quiet ∨ frame.detector.profileMode ≠ .m3 then ordinary
  else if 2 ≤ stringCount members then
    max ordinary (frame.evidence.candidate candidate).unisonDropoutDecisions
  else ordinary

/-- The voice moves to the lanes it is projected on. Lanes that are left get a note-off first, and
new ones a note-on afterwards. -/
def moveLanes : CandidateDecision count :=
  let state := decision.states candidate
  let desired := state.projectedOutputStringMask
  let removed := state.midiVoiceMask &&& ~~~desired
  let added := desired &&& ~~~state.midiVoiceMask
  let note := decision.candidateOutputNote frame.detector candidate
  let closed := decision.appendAll ((stringsOf removed).map fun string : Fin maxVoices =>
    { kind := .noteOff, note := note, voiceId := string })
  let opened := closed.appendAll ((stringsOf added).map fun string : Fin maxVoices =>
    { kind := .noteOn, note := note, velocity := frame.velocity, voiceId := string })
  opened.setState candidate { state with midiVoiceMask := desired }

/-- An unselected voice goes on until its release is due. -/
def coast : CandidateDecision count :=
  let state := decision.states candidate
  let waited := { state with releaseTicks := min (state.releaseTicks + 1) wordLimit }
  let waiting := decision.setState candidate waited
  if waited.releaseTicks ≥ frame.candidateReleaseDecisions decision candidate then
    match waiting.appendCandidateNoteOff frame.detector candidate with
    | (true, ended) => ended.setState candidate {}
    | (false, full) => full.countActive
  else waiting.countActive

/-- A voice goes on, is handed off or ends. A selected voice takes back its count of the release.
One that is not selected is handed off or coasts. -/
def continueVoice : CandidateDecision count :=
  let state := decision.states candidate
  if state.active = false then decision
  else if frame.selected candidate then
    let kept := decision.setState candidate { state with releaseTicks := 0 }
    let moved := if frame.detector.laned then frame.moveLanes kept candidate else kept
    moved.countActive
  else if frame.handsOff decision candidate then
    match decision.appendCandidateNoteOff frame.detector candidate with
    | (true, ended) => ended.setState candidate {}
    | (false, full) => frame.coast full candidate
  else frame.coast decision candidate

/-- Evidence that a new voice needs beside one that sounds already. -/
def preAttackEvidence : ℕ :=
  let total := frame.detector.candidateEvidenceDecisions false
  let attack := frame.detector.attackDecisions
  if total > attack then total - attack + 1 else 1

/-- A selected candidate attacks until its voice begins. It begins when it has attacked for long
enough, and keeps trying if there was no room in the buffer. -/
def attack (state : CandidateState) : CandidateDecision count :=
  let attacked := { state with
    attackTicks := min (state.attackTicks + 1) byteLimit
    ageTicks := min (state.ageTicks + 1) wordLimit }
  let attacking := decision.setState candidate attacked
  if attacked.attackTicks ≥ frame.detector.attackDecisions then
    match attacking.appendCandidateNoteOn frame.detector candidate frame.velocity with
    | (false, refused) =>
        refused.setState candidate { attacked with attackTicks := frame.detector.attackDecisions }
    | (true, begun) =>
        (begun.setState candidate { begun.states candidate with
          active := true, attackTicks := 0, evidenceTicks := 0 }).countActive
  else attacking

/-- A candidate attacks, waits for its evidence, or is turned away when there are enough voices. A
candidate that is not selected gives its attack up. -/
def attackVoice : CandidateDecision count :=
  let state := decision.states candidate
  if frame.selected candidate = false then
    if state.active then decision
    else decision.setState candidate { state with attackTicks := 0, ageTicks := 0 }
  else
    let state := { state with releaseTicks := 0 }
    if state.active then
      decision.setState candidate { state with ageTicks := min (state.ageTicks + 1) wordLimit }
    else if decision.activeCount ≥ frame.detector.maxPolyphony then
      decision.setState candidate {}
    else if frame.evidence.attackEnergy = false then
      decision.setState candidate
        { state with attackTicks := 0, evidenceTicks := 0, evidenceGapTicks := 0 }
    else if state.evidenceTicks = 0 then
      decision.setState candidate { state with attackTicks := 0 }
    else if frame.hadActiveVoice ∧ state.evidenceTicks < frame.preAttackEvidence then
      decision.setState candidate { state with attackTicks := 0 }
    else frame.attack decision candidate state

end Voices

end DecisionFrame

namespace VoiceState

variable {count : ℕ} (detector : DetectorConfiguration) (evidence : DecisionEvidence count)
  (voices : VoiceState count)

/-- What the loops of a decision are given. -/
def frame : DecisionFrame count where
  detector := detector
  evidence := evidence
  scores := evidence.scores detector voices.states
  fundamentals := evidence.fundamentals detector voices.states
  selected := selectedCandidate detector evidence voices.states
  selectedVoiceCount := selectedVoiceCount detector evidence voices.states
  quiet := quietDecision detector evidence voices.states
  hadActiveVoice := DecisionEvidence.hadActiveVoice voices.states
  velocity := detector.dynamicVelocity evidence.decibels

/-- The string assignment and the unison inference have been done. -/
def observed (candidate : Fin count) : CandidateState :=
  let found := evidence.candidate candidate
  { voices.states candidate with
    assignedString := found.assignedString
    assignedStringMask := found.assignedStringMask
    spectralLaneMask := found.spectralLaneMask }

/-- The decision starts from the voices with their new observations. -/
def start : CandidateDecision count where
  states := voices.observed evidence
  transitionSequence := voices.transitionSequence

/-- The notes have been corrected. -/
def corrected : CandidateDecision count :=
  let frame := voices.frame detector evidence
  (voices.start evidence).updateCalibratedOutputNotes detector evidence frame.selected
    frame.selectedVoiceCount frame.velocity

/-- The evidence of the voices that do not sound has been counted. -/
def weighed : CandidateDecision count :=
  let corrected := voices.corrected detector evidence
  { corrected with
    states := (voices.frame detector evidence).updateEvidence corrected.states }

/-- The loop over the voices that sound. -/
def continued : CandidateDecision count :=
  (List.finRange count).foldl (voices.frame detector evidence).continueVoice
    (voices.weighed detector evidence)

/-- The loop over the candidates that may attack. -/
def attacked : CandidateDecision count :=
  (List.finRange count).foldl (voices.frame detector evidence).attackVoice
    (voices.continued detector evidence)

/-- `make_decision`: the transitions, and what is kept. -/
def makeDecision : List VoiceTransition × VoiceState count :=
  let attacked := voices.attacked detector evidence
  (attacked.transitions,
    { states := fun candidate => { attacked.states candidate with
        continuityLaneMask := (evidence.candidate candidate).continuityLaneMask }
      transitionSequence := attacked.transitionSequence })

/-- The signal has been lost, and with it the evidence. -/
def loseSignal : VoiceState count :=
  { voices with
    states := fun candidate => { voices.states candidate with evidenceTicks := 0 } }

end VoiceState

end M3Midi
