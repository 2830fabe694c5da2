import M3Midi.Detector.DetectorSession
import M3Midi.Detector.Resonators
import M3Midi.Detector.SampleClock
import M3Midi.Foundation.EventTrace

/-! # One sample after the other

The detector takes the constant part off a sample, follows its energy in two measures of time and
lets the resonators hear it. Energy above the floor is a signal; a signal that is lost takes the
evidence of the candidates with it. On every 64th sample there is a decision, from the energies
there are. In the general profile this is all there is to a detector; what the stages of the M3
profile keep and find is left open.

Samples, energies and filters are rational numbers here, and arithmetic is exact: nothing
overflows, underflows or is rounded, as it may be in the doubles of the detector.
-/

namespace M3Midi

open Foundation

/-- `kDcCutoffHz` -/
def dcCutoffHz : ℚ := 15

/-- `kFastEnergySeconds` -/
def fastEnergySeconds : ℚ := 40 / 1000

/-- `kSlowEnergySeconds` -/
def slowEnergySeconds : ℚ := 100 / 1000

/-- In decibels a second. -/
def rapidMuteEnergySlope : ℚ := -80

/-- A counter of four bytes. -/
def signalSamplesLimit : ℕ := 2 ^ 32 - 1

namespace StandardMath

variable (math : StandardMath) (sampleRate : ℚ)

/-- The pole of the filter that takes the constant part away. -/
def dcPole : ℚ := math.exp (-twoPi * dcCutoffHz / sampleRate)

/-- What the fast energy and the resonators keep from one sample to the next. -/
def correlationDecay : ℚ := math.exp (-1 / (fastEnergySeconds * sampleRate))

/-- What the slow energy keeps from one sample to the next. -/
def slowEnergyDecay : ℚ := math.exp (-1 / (slowEnergySeconds * sampleRate))

/-- The energy below which a sensitivity hears no signal. -/
def signalFloor (sensitivity : ℕ) : ℚ :=
  math.pow 10 ((-70 + 20 / 100 * (100 - sensitivity : ℕ)) / 10)

end StandardMath

/-- What the detector keeps of the signal. The energies are exact rationals: they neither round nor
underflow, and however large the samples are, they do not become infinite or undefined as doubles
do. -/
structure SignalState where
  previousInput : ℚ := 0
  previousDcOutput : ℚ := 0
  fastEnergy : ℚ := 0
  slowEnergy : ℚ := 0
  previousDecisionEnergy : ℚ := 0
  signalPresent : Bool := false
  signalSamples : ℕ := 0

namespace SignalState

variable (math : StandardMath) (detector : DetectorConfiguration) (signal : SignalState)

/-- The sample without its constant part. -/
def dcBlocked (sample : ℚ) : ℚ :=
  sample - signal.previousInput + math.dcPole detector.sampleRate * signal.previousDcOutput

/-- The energies have followed a sample. -/
def followed (sample : ℚ) : SignalState :=
  let dcBlocked := signal.dcBlocked math detector sample
  let power := dcBlocked * dcBlocked
  { signal with
    previousInput := sample
    previousDcOutput := dcBlocked
    fastEnergy := follow (math.correlationDecay detector.sampleRate) signal.fastEnergy power
    slowEnergy := follow (math.slowEnergyDecay detector.sampleRate) signal.slowEnergy power }

/-- The energy is that of a signal. -/
def present (sounding : Bool) : Bool :=
  math.signalFloor detector.sensitivity ≤ signal.fastEnergy &&
    (sounding || signal.slowEnergy * silenceEnergyRatio ≤ signal.fastEnergy)

/-- The signal after a sample, with the length it has had. The signal is filtered and followed, the
cells turn, and the voices are lost when the signal is. -/
def hear (sounding : Bool) (sample : ℚ) : SignalState :=
  let followed := signal.followed math detector sample
  if followed.present math detector sounding = false then
    { followed with signalPresent := false, signalSamples := 0 }
  else if followed.signalSamples < signalSamplesLimit then
    { followed with signalPresent := true, signalSamples := followed.signalSamples + 1 }
  else followed

/-- The signal ends with a sample. -/
def loses (sounding : Bool) (sample : ℚ) : Bool :=
  signal.signalPresent && !(signal.followed math detector sample).present math detector sounding

/-- The energy has fallen since the last decision as fast as a muted string's. -/
def rapidMute : Bool :=
  scoreEpsilon < signal.previousDecisionEnergy && scoreEpsilon < signal.fastEnergy &&
    10 * math.log10 (signal.fastEnergy / signal.previousDecisionEnergy) *
      (detector.sampleRate / decisionQuantum) < rapidMuteEnergySlope

/-- The level of the signal, in decibels. -/
def decibels : ℚ :=
  20 * math.log10 (max (math.sqrt (max 0 signal.fastEnergy)) (1 / 10 ^ 12))

end SignalState

/-- What the stages of the M3 profile hear, keep and find. They are parameters of the model. What
is proved holds for any of them. -/
structure M3Stages (Kept : Type) (count : ℕ) where
  hear : Kept → SignalState → DetectorSession count → ℚ → Kept
  bank : Kept → StringCalibrationBank
  find : Kept → SignalState → DetectorSession count → Fin count → CandidateEvidence
  keep : Kept → SignalState → DetectorSession count → Kept

/-- A detector between two samples, but for the phase of its decisions. Samples and energies are
exact numbers throughout. -/
structure DetectorState (Kept : Type) (count : ℕ) where
  signal : SignalState := {}
  cells : Resonators count
  kept : Kept
  session : DetectorSession count
  sound : session.Sound

namespace DetectorState

variable {Kept : Type} {count : ℕ} (math : StandardMath) (stages : M3Stages Kept count)
  (state : DetectorState Kept count)

/-- A voice sounds. -/
def sounding : Bool := DecisionEvidence.hadActiveVoice state.session.voices.states

/-- The detector has heard a sample. -/
def hear (sample : ℚ) : DetectorState Kept count :=
  let detector := state.session.detector
  let dcBlocked := state.signal.dcBlocked math detector sample
  let heard := { state with
    signal := state.signal.hear math detector state.sounding sample
    cells := state.cells.hear (math.correlationDecay detector.sampleRate) dcBlocked
    kept := stages.hear state.kept state.signal state.session sample }
  if state.signal.loses math detector state.sounding sample then
    { heard with
      session := { state.session with voices := state.session.voices.loseSignal }
      sound := state.sound.step .loseSignal }
  else heard

/-- A sample changes the session only by the loss of the signal. A decision comes after it. -/
theorem session_hear (sample : ℚ) : (state.hear math stages sample).session =
    if state.signal.loses math state.session.detector state.sounding sample then
      { state.session with voices := state.session.voices.loseSignal }
    else state.session := by
  unfold hear
  dsimp only
  split_ifs <;> rfl

/-- What a decision is given. The groups of which a signal may come back are known in the M3
profile only. -/
def evidence : DecisionEvidence count where
  fastEnergy := state.signal.fastEnergy
  slowEnergy := state.signal.slowEnergy
  signalFloor := math.signalFloor state.session.detector.sensitivity
  signalSamples := state.signal.signalSamples
  rapidMute := state.signal.rapidMute math state.session.detector
  decibels := state.signal.decibels math
  bank := stages.bank state.kept
  candidate := fun candidate =>
    let found := stages.find state.kept state.signal state.session candidate
    { found with
      score := state.cells.score candidate
      fundamental := state.cells.fundamental candidate
      resumable := state.session.detector.profileMode = .m3 && found.resumable }

/-- The detector has decided. -/
def decided : DetectorState Kept count where
  signal := { state.signal with previousDecisionEnergy := state.signal.fastEnergy }
  cells := state.cells
  kept := stages.keep state.kept state.signal state.session
  session := { state.session with
    voices := (state.session.voices.makeDecision state.session.detector
      (state.evidence math stages)).2 }
  sound := state.sound.step (.decide (state.evidence math stages))

end DetectorState

section Samples

variable {Kept : Type} {count : ℕ} (math : StandardMath) (stages : M3Stages Kept count)

/-- The detector, from samples to transitions. -/
def pitchDetector : PolyphonicPitchDetector (DetectorState Kept count) where
  hear := DetectorState.hear math stages
  makeDecision state :=
    ({ transitions := (state.session.voices.makeDecision state.session.detector
          (state.evidence math stages)).1
       bounded := (state.sound.transitions (state.evidence math stages)).1
       valid := fun transition member =>
         (state.sound.transitions (state.evidence math stages)).2 transition member },
      state.decided math stages)

/-- What happens to a detector: a sample, which may not be finite, or a change of parameters. -/
inductive SampleEvent
  | sample (value : Option ℚ)
  | retune (candidate : PersistentConfig)

/-- The detector as samples come, and between them changes of parameters. Every sixty-fourth sample
brings a decision, whose transitions are the output. -/
def sampleMachine : Transducer SampleEvent (DetectorRun (DetectorState Kept count))
    (Option DetectorDecision) where
  step run
    | .sample (some sample) =>
        let processed := (pitchDetector math stages).processSample run sample
        (processed.2, [processed.1])
    | .sample none => (run, [none])
    | .retune candidate =>
        ({ run with state := { run.state with
            session := run.state.session.retune candidate
            sound := (run.state.sound.retune candidate).1 } }, [])

/-- What an event is to the voices. -/
def voiceEvents (run : DetectorRun (DetectorState Kept count)) :
    SampleEvent → List (DetectorEvent count)
  | .sample (some sample) =>
      let state := run.state
      let lost := state.signal.loses math state.session.detector state.sounding sample
      (if lost then [.loseSignal] else []) ++
        if run.decisionPhase + 1 < decisionQuantum then []
        else [.decide ((state.hear math stages sample).evidence math stages)]
  | .sample none => []
  | .retune candidate => [.retune candidate]

variable {math stages}

/-- A step of the detector is a few steps of its voices. -/
theorem run_voiceEvents (run : DetectorRun (DetectorState Kept count)) (event : SampleEvent) :
    (DetectorSession.machine count).run run.state.session (voiceEvents math stages run event) =
      (((sampleMachine math stages).step run event).1.state.session,
        ((sampleMachine math stages).step run event).2.filterMap
          (Option.map DetectorDecision.transitions)) := by
  cases event with
  | sample value =>
      cases value with
      | none => rfl
      | some sample =>
          have heard : (DetectorSession.machine count).run run.state.session
              (if run.state.signal.loses math run.state.session.detector run.state.sounding sample
                then [.loseSignal] else []) =
                ((run.state.hear math stages sample).session, []) := by
            rw [DetectorState.session_hear]
            split_ifs <;> rfl
          unfold voiceEvents
          dsimp only
          rw [Transducer.run_append, heard]
          change _ = ((((pitchDetector math stages).processSample run sample).2.state.session),
            [((pitchDetector math stages).processSample run sample).1].filterMap _)
          unfold PolyphonicPitchDetector.processSample
          dsimp only
          split_ifs <;> rfl
  | retune candidate => rfl

/-- A run of the detector is the run of its voices over what the events are to them. -/
theorem run_voices (run : DetectorRun (DetectorState Kept count)) (events : List SampleEvent) :
    (DetectorSession.machine count).run run.state.session
        ((sampleMachine math stages).trace (voiceEvents math stages) run events) =
      (((sampleMachine math stages).run run events).1.state.session,
        ((sampleMachine math stages).run run events).2.filterMap
          (Option.map DetectorDecision.transitions)) :=
  @Transducer.run_trace _ _ _ _ _ _ (sampleMachine math stages) (voiceEvents math stages)
    (DetectorSession.machine count) (fun run => run.state.session)
    (Option.map DetectorDecision.transitions) run_voiceEvents run events

/-- What does not change between two resets does not change with samples. -/
theorem run_sameStructure (run : DetectorRun (DetectorState Kept count))
    (events : List SampleEvent) : DetectorSession.SameStructure run.state.session
      ((sampleMachine math stages).run run events).1.state.session := by
  have same := run.state.sound.run_structure
    ((sampleMachine math stages).trace (voiceEvents math stages) run events)
  rw [run_voices] at same
  exact same

/-- Samples alone are what the detector hears one after the other. -/
theorem run_samples (run : DetectorRun (DetectorState Kept count)) (heard : List ℚ) :
    (sampleMachine math stages).run run (heard.map fun sample => .sample (some sample)) =
      (pitchDetector math stages).samples.run run heard := by
  induction heard generalizing run with
  | nil => rfl
  | cons sample heard ih =>
      rw [List.map_cons, Transducer.run_cons, Transducer.run_cons, ih]
      rfl

end Samples

end M3Midi
