import M3Midi.Detector.ProcessSample

/-! # The energy of a signal

What the detector follows of a signal is the energy of what it has heard, in which the resonators
have no more than their share: whatever the input, the score of a candidate is at most 3.31 times
that energy (`M3Midi.DetectorState.score_le_energy`). This is a result in exact arithmetic.
-/

namespace M3Midi

open Foundation

variable {math : StandardMath} {detector : DetectorConfiguration}

section Decays

variable {sampleRate : ℚ} (clocked : 0 < sampleRate)

include clocked

/-- The pole of the DC filter lies between zero and one. -/
theorem StandardMath.dcPole_mem :
    0 ≤ math.dcPole sampleRate ∧ math.dcPole sampleRate < 1 := by
  apply math.exp_mem
  apply div_neg_of_neg_of_pos _ clocked
  norm_num [twoPi, dcCutoffHz]

/-- The decay of the correlation lies between zero and one. -/
theorem StandardMath.correlationDecay_mem :
    0 ≤ math.correlationDecay sampleRate ∧ math.correlationDecay sampleRate < 1 := by
  apply math.exp_mem
  apply div_neg_of_neg_of_pos (by norm_num)
  apply mul_pos _ clocked
  norm_num [fastEnergySeconds]

end Decays

namespace SignalState

variable {signal : SignalState} {sounding : Bool} {sample : ℚ}

@[simp] theorem previousInput_hear :
    (signal.hear math detector sounding sample).previousInput = sample := by
  unfold hear
  dsimp only
  split_ifs <;> rfl

@[simp] theorem previousDcOutput_hear :
    (signal.hear math detector sounding sample).previousDcOutput =
      signal.dcBlocked math detector sample := by
  unfold hear
  dsimp only
  split_ifs <;> rfl

@[simp] theorem fastEnergy_hear :
    (signal.hear math detector sounding sample).fastEnergy =
      follow (math.correlationDecay detector.sampleRate) signal.fastEnergy
        (signal.dcBlocked math detector sample * signal.dcBlocked math detector sample) := by
  unfold hear
  dsimp only
  split_ifs <;> rfl

/-- Below the floor there is no signal. -/
theorem signalSamples_hear (below : (signal.hear math detector sounding sample).fastEnergy <
    math.signalFloor detector.sensitivity) :
    (signal.hear math detector sounding sample).signalSamples = 0 := by
  have energy : (signal.followed math detector sample).fastEnergy =
      (signal.hear math detector sounding sample).fastEnergy := by
    rw [fastEnergy_hear]
    rfl
  have absent : (signal.followed math detector sample).present math detector sounding = false := by
    unfold present
    rw [energy, decide_eq_false (not_le.mpr below)]
    rfl
  unfold hear
  dsimp only
  rw [if_pos absent]

/-- The signal is gone, or is there for one sample more at most. -/
theorem signalSamples_hear_cases (flagged : signal.signalSamples ≠ 0 → signal.signalPresent = true) :
    let heard := signal.hear math detector sounding sample
    heard.signalSamples = 0 ∨
      (heard.signalPresent = true ∧ heard.signalSamples ≤ signal.signalSamples + 1) := by
  intro heard
  by_cases absent : (signal.followed math detector sample).present math detector sounding = false
  · left
    change (SignalState.hear math detector signal sounding sample).signalSamples = 0
    unfold hear
    dsimp only
    rw [if_pos absent]
  right
  change (SignalState.hear math detector signal sounding sample).signalPresent = true ∧
    (SignalState.hear math detector signal sounding sample).signalSamples ≤ _
  unfold hear
  dsimp only
  rw [if_neg absent]
  by_cases few : (signal.followed math detector sample).signalSamples < signalSamplesLimit
  · rw [if_pos few]
    exact ⟨rfl, le_rfl⟩
  · rw [if_neg few]
    have many : signal.signalSamples ≠ 0 := by
      intro none
      change ¬ signal.signalSamples < signalSamplesLimit at few
      rw [none] at few
      exact few (by decide)
    exact ⟨flagged many, Nat.le_succ _⟩

end SignalState

section Steps

variable {Kept : Type} {count : ℕ} {stages : M3Stages Kept count}

/-- What a sample does to the signal and to the cells, with a decision or without. -/
structure SampleHeard (math : StandardMath) (before : DetectorState Kept count) (sample : ℚ)
    (after : DetectorState Kept count) : Prop where
  previousInput : after.signal.previousInput = sample
  previousDcOutput : after.signal.previousDcOutput =
    before.signal.dcBlocked math before.session.detector sample
  fastEnergy : after.signal.fastEnergy =
    follow (math.correlationDecay before.session.detector.sampleRate) before.signal.fastEnergy
      (before.signal.dcBlocked math before.session.detector sample *
        before.signal.dcBlocked math before.session.detector sample)
  signalSamples : after.signal.signalSamples =
    (before.signal.hear math before.session.detector before.sounding sample).signalSamples
  signalPresent : after.signal.signalPresent =
    (before.signal.hear math before.session.detector before.sounding sample).signalPresent
  cells : after.cells =
    before.cells.hear (math.correlationDecay before.session.detector.sampleRate)
      (before.signal.dcBlocked math before.session.detector sample)
  detector : after.session.detector = before.session.detector

/-- A sample is heard by all parts of the state in the way that is stated here. -/
theorem hear_heard (state : DetectorState Kept count) (sample : ℚ) :
    SampleHeard math state sample (state.hear math stages sample) := by
  have signal : (state.hear math stages sample).signal =
      state.signal.hear math state.session.detector state.sounding sample := by
    unfold DetectorState.hear
    dsimp only
    split_ifs <;> rfl
  constructor
  · rw [signal, SignalState.previousInput_hear]
  · rw [signal, SignalState.previousDcOutput_hear]
  · rw [signal, SignalState.fastEnergy_hear]
  · rw [signal]
  · rw [signal]
  · unfold DetectorState.hear
    dsimp only
    split_ifs <;> rfl
  · rw [DetectorState.session_hear]
    split_ifs <;> rfl

theorem step_heard (run : DetectorRun (DetectorState Kept count)) (sample : ℚ) :
    SampleHeard math run.state sample
      ((sampleMachine math stages).step run (.sample (some sample))).1.state := by
  have heard := @hear_heard math _ _ stages run.state sample
  change SampleHeard math run.state sample
    ((pitchDetector math stages).processSample run sample).2.state
  unfold PolyphonicPitchDetector.processSample
  dsimp only
  split_ifs
  · exact heard
  · exact ⟨heard.previousInput, heard.previousDcOutput, heard.fastEnergy, heard.signalSamples,
      heard.signalPresent, heard.cells, heard.detector⟩

/-- The energy bounds what the cells hold, and a signal that has had a length is there. The energy
and the cells decay alike, which exact arithmetic keeps. -/
structure Energetic (state : DetectorState Kept count) : Prop where
  fast : 0 ≤ state.signal.fastEnergy
  within : state.cells.Within state.signal.fastEnergy
  flagged : state.signal.signalSamples ≠ 0 → state.signal.signalPresent = true

/-- One more sample keeps the energies above what the resonators have gathered. -/
theorem Energetic.hear {before after : DetectorState Kept count} (energetic : Energetic before)
    {sample : ℚ} (heard : SampleHeard math before sample after) : Energetic after := by
  obtain ⟨keeps, loses⟩ := @StandardMath.correlationDecay_mem math _ before.sound.clocked
  constructor
  · rw [heard.fastEnergy]
    exact follow_nonneg keeps loses.le energetic.fast (mul_self_nonneg _)
  · rw [heard.fastEnergy, heard.cells]
    exact energetic.within.hear energetic.fast keeps loses.le _
  · intro some
    rw [heard.signalSamples] at some
    rw [heard.signalPresent]
    have cases := @SignalState.signalSamples_hear_cases math before.session.detector before.signal
      before.sounding sample energetic.flagged
    exact (cases.resolve_left some).1

theorem Energetic.step {run : DetectorRun (DetectorState Kept count)}
    (energetic : Energetic run.state) (event : SampleEvent) :
    Energetic ((sampleMachine math stages).step run event).1.state := by
  cases event with
  | sample value =>
      cases value with
      | none => exact energetic
      | some sample => exact energetic.hear (step_heard run sample)
  | retune candidate => exact ⟨energetic.fast, energetic.within, energetic.flagged⟩

end Steps

/-- A decision takes samples, so its clock has a first phase. -/
theorem decisionQuantum_pos : 0 < decisionQuantum := Nat.zero_lt_succ 63

namespace DetectorState

variable {Kept : Type}

/-- A detector as `configure` leaves it. -/
def start (math : StandardMath) (kept : Kept) (fresh : DetectorConfiguration)
    {sampleRate : Option ℚ} {config : PersistentConfig}
    (valid : validConfig sampleRate config = true) :
    DetectorRun (DetectorState Kept (config.highestNote - config.lowestNote + 1)) where
  decisionPhase := ⟨0, decisionQuantum_pos⟩
  state :=
    { cells := Resonators.configure math (fresh.configure sampleRate config).2 config.a4Hz
      kept := kept
      session := DetectorSession.start fresh sampleRate config
      sound := DetectorSession.start_sound valid }

variable {kept : Kept} {fresh : DetectorConfiguration} {sampleRate : Option ℚ}
  {config : PersistentConfig}

/-- At the start there is nothing in the resonators. -/
theorem start_energetic (valid : validConfig sampleRate config = true) :
    Energetic (start math kept fresh valid).state :=
  ⟨le_rfl, Resonators.within_configure math _ _, fun some => absurd rfl some⟩

/-- In every run, the energies stay above what the resonators have gathered. -/
theorem run_energetic {stages : M3Stages Kept (config.highestNote - config.lowestNote + 1)}
    (valid : validConfig sampleRate config = true) (events : List SampleEvent) :
    Energetic ((sampleMachine math stages).run (start math kept fresh valid) events).1.state :=
  @Transducer.run_preserves _ _ _ (sampleMachine math stages) (fun run => Energetic run.state)
    (fun _ event holds => holds.step event) _ (start_energetic valid) events

/-- **The resonators report no more than there is.** Whatever a detector has heard, the score of a
candidate is at most 3.31 times the energy of the signal. -/
theorem score_le_energy {stages : M3Stages Kept (config.highestNote - config.lowestNote + 1)}
    (valid : validConfig sampleRate config = true) (events : List SampleEvent)
    (candidate : Fin (config.highestNote - config.lowestNote + 1)) :
    let reached := ((sampleMachine math stages).run (start math kept fresh valid) events).1.state
    reached.cells.score candidate ≤ 331 / 100 * reached.signal.fastEnergy := by
  intro reached
  exact Resonators.score_le (run_energetic valid events).within candidate

end DetectorState

section Sine

/-- The rational stand-in for the exponential lies between zero and one below zero. -/
theorem rational_exp_mem (exponent : ℚ) (negative : exponent < 0) :
    0 ≤ (12 + 6 * exponent + exponent ^ 2) / (12 - 6 * exponent + exponent ^ 2) ∧
      (12 + 6 * exponent + exponent ^ 2) / (12 - 6 * exponent + exponent ^ 2) < 1 := by
  have low : 0 < 12 + 6 * exponent + exponent ^ 2 := by nlinarith [sq_nonneg (exponent + 3)]
  have high : 12 + 6 * exponent + exponent ^ 2 < 12 - 6 * exponent + exponent ^ 2 := by linarith
  exact ⟨div_nonneg low.le (low.trans high).le, (div_lt_one (low.trans high)).mpr high⟩

/-- Functions that are close for small exponents, and exact for whole powers and for a quarter of a
turn. -/
def rationalMath : StandardMath where
  exp exponent := (12 + 6 * exponent + exponent ^ 2) / (12 - 6 * exponent + exponent ^ 2)
  exp2 exponent := 2 ^ exponent.floor
  pow base exponent := base ^ exponent.floor
  log10 value := Nat.log 10 value.floor.toNat
  sqrt value := Nat.sqrt value.floor.toNat
  cos angle := if angle < 1 then 1 else 0
  sin angle := if angle < 1 then 0 else 1
  exp_mem := rational_exp_mem
  pow_pos := fun _ _ positive => zpow_pos positive _
  cos_sin := fun angle => by split_ifs <;> norm_num

/-- No stages, for the general profile. -/
def noStages (count : ℕ) : M3Stages Unit count where
  hear _ _ _ _ := ()
  bank _ := {}
  find _ _ _ _ := {}
  keep _ _ _ := ()

/-- A single candidate of 55 Hz. -/
def lowConfig : PersistentConfig :=
  { profileMode := .general, response := 0, lowestNote := 33, highestNote := 33 }

/-- The example's configuration is valid. -/
theorem lowConfig_valid : validConfig (some 220) lowConfig = true := by decide +kernel

/-- A tone of a quarter of the sample rate. -/
def tone (length : ℕ) : List SampleEvent :=
  (List.range length).map fun index => .sample (([1, 0, -1, 0] : List ℚ)[index % 4]?)

/-- A short tone, after which the score is within the bound. -/
theorem DetectorState.score_le_energy_tone :
    let reached := ((sampleMachine rationalMath (noStages _)).run
      (start rationalMath () {} lowConfig_valid) (tone 64)).1.state
    reached.cells.score ⟨0, by decide⟩ ≤ 331 / 100 * reached.signal.fastEnergy :=
  @score_le_energy rationalMath Unit () {} (some 220) lowConfig (noStages _) lowConfig_valid
    (tone 64) ⟨0, by decide⟩

end Sine

end M3Midi
