import M3Midi.Detector.SignalEnergy
import M3Midi.Detector.VoiceTiming

/-! # Input that stands still

In exact arithmetic, when the input stands still, the energy falls below the floor for good, every
decision is quiet, and without lanes every voice ends (`M3Midi.DetectorState.silence_releases`). At the other end, a
voice of the general profile begins no earlier than the signal has been there for as long as a
single voice needs (`M3Midi.DetectorState.onset_streak`).
-/

namespace M3Midi

open Foundation

variable {math : StandardMath}

/-- Every decision brings its transitions. -/
theorem DetectorSession.length_run_eq {count : ℕ} (session : DetectorSession count)
    (events : List (DetectorEvent count)) :
    ((machine count).run session events).2.length = Transducer.weigh decisions events := by
  induction events generalizing session with
  | nil => rfl
  | cons event events ih =>
      rw [Transducer.run_cons, List.length_append, ih, Transducer.weigh]
      cases event <;> rfl

/-- Every decision gives one list of transitions. -/
theorem length_filterMap_transitions (outcomes : List (Option DetectorDecision)) :
    (outcomes.filterMap (Option.map DetectorDecision.transitions)).length =
      (outcomes.filter Option.isSome).length := by
  induction outcomes with
  | nil => rfl
  | cons outcome outcomes ih =>
      cases outcome with
      | none => exact ih
      | some decision => exact congrArg Nat.succ ih

section Silence

variable {Kept : Type} {count : ℕ} {stages : M3Stages Kept count}

/-- The detector after an input that stands still. -/
def afterLevel (math : StandardMath) (stages : M3Stages Kept count) (level : ℚ)
    (run : DetectorRun (DetectorState Kept count)) (length : ℕ) :
    DetectorRun (DetectorState Kept count) :=
  ((sampleMachine math stages).run run (List.replicate length (.sample (some level)))).1

variable {level : ℚ} {run : DetectorRun (DetectorState Kept count)}

/-- One sample more of a constant level. -/
theorem afterLevel_succ (length : ℕ) : afterLevel math stages level run (length + 1) =
    ((sampleMachine math stages).step (afterLevel math stages level run length)
      (.sample (some level))).1 := by
  unfold afterLevel
  rw [List.replicate_succ', Transducer.run_concat]

/-- That sample is heard. -/
theorem afterLevel_heard (length : ℕ) : SampleHeard math
    (afterLevel math stages level run length).state level
      (afterLevel math stages level run (length + 1)).state := by
  rw [afterLevel_succ]
  exact step_heard _ level

/-- Samples leave the configuration alone. -/
theorem afterLevel_detector (length : ℕ) :
    (afterLevel math stages level run length).state.session.detector =
      run.state.session.detector := by
  induction length with
  | zero => rfl
  | succ length ih => rw [(afterLevel_heard length).detector, ih]

/-- A constant level can be followed in two stretches. -/
theorem afterLevel_add (first second : ℕ) : afterLevel math stages level run (first + second) =
    afterLevel math stages level (afterLevel math stages level run first) second := by
  unfold afterLevel
  rw [List.replicate_add, Transducer.run_append]

/-- From the second sample on there is only what is left of the first. -/
theorem afterLevel_dcOutput (length : ℕ) :
    (afterLevel math stages level run (length + 2)).state.signal.previousDcOutput =
      math.dcPole run.state.session.detector.sampleRate *
        (afterLevel math stages level run (length + 1)).state.signal.previousDcOutput := by
  rw [(afterLevel_heard (length + 1)).previousDcOutput, afterLevel_detector]
  unfold SignalState.dcBlocked
  rw [(afterLevel_heard length).previousInput]
  ring

/-- In silence the energy falls below the floor for good. The filtered input fades as a power, and
the energy that follows it as well. -/
theorem exists_below_floor (energetic : Energetic run.state) :
    ∃ quiet, ∀ length, quiet ≤ length →
      (afterLevel math stages level run length).state.signal.fastEnergy <
        math.signalFloor run.state.session.detector.sensitivity := by
  have clocked := run.state.sound.clocked
  obtain ⟨keeps, loses⟩ := @StandardMath.correlationDecay_mem math _ clocked
  obtain ⟨above, below⟩ := @StandardMath.dcPole_mem math _ clocked
  have reached : ∀ length, Energetic (afterLevel math stages level run length).state := by
    intro length
    exact @Transducer.run_preserves _ _ _ (sampleMachine math stages)
      (fun run => Energetic run.state) (fun _ event holds => holds.step event) _ energetic _
  let energy := fun step => (afterLevel math stages level run (step + 1)).state.signal.fastEnergy
  let left := fun step => (afterLevel math stages level run (step + 2)).state.signal.previousDcOutput
  have follows : ∀ step, energy (step + 1) =
      follow (math.correlationDecay run.state.session.detector.sampleRate) (energy step)
        (left step * left step) := by
    intro step
    have heard := @afterLevel_heard math Kept count stages level run (step + 1)
    change (afterLevel math stages level run (step + 2)).state.signal.fastEnergy = _
    rw [heard.fastEnergy, ← heard.previousDcOutput, afterLevel_detector]
  have fades : ∀ step, left (step + 1) * left (step + 1) =
      math.dcPole run.state.session.detector.sampleRate *
        math.dcPole run.state.session.detector.sampleRate * (left step * left step) := by
    intro step
    have fading : left (step + 1) = math.dcPole run.state.session.detector.sampleRate * left step :=
      afterLevel_dcOutput (step + 1)
    rw [fading]
    ring
  have ends : math.dcPole run.state.session.detector.sampleRate *
      math.dcPole run.state.session.detector.sampleRate < 1 :=
    mul_lt_one_of_nonneg_of_lt_one_left above below below.le
  obtain ⟨quiet, falls⟩ := exists_follow_lt keeps loses (mul_self_nonneg _) ends follows fades
    (reached 1).fast (mul_self_nonneg _) (math.pow_pos 10 ((-70 + 20 / 100 *
      (100 - run.state.session.detector.sensitivity : ℕ)) / 10) (by norm_num))
  refine ⟨quiet + 1, fun length late => ?_⟩
  obtain ⟨step, rfl⟩ : ∃ step, length = step + 1 := ⟨length - 1, by omega⟩
  exact falls step (by omega)

/-- The samples there are bring a decision for each quantum. -/
theorem decisions_afterLevel {limit length : ℕ} (long : decisionQuantum * (limit + 1) ≤ length) :
    limit ≤ Transducer.weigh DetectorSession.decisions
      ((sampleMachine math stages).trace (voiceEvents math stages) run
        (List.replicate length (.sample (some level)))) := by
  have counted := @PolyphonicPitchDetector.decisions_run _ (pitchDetector math stages) run
    (List.replicate length level)
  have phase := ((pitchDetector math stages).samples.run run
    (List.replicate length level)).1.decisionPhase.isLt
  have same := @run_samples Kept count math stages run (List.replicate length level)
  rw [List.map_replicate] at same
  have seen := congrArg Prod.snd (@run_voices Kept count math stages run
    (List.replicate length (.sample (some level))))
  dsimp only at seen
  rw [same] at seen
  rw [← DetectorSession.length_run_eq run.state.session, seen, length_filterMap_transitions]
  rw [List.length_replicate] at counted
  unfold decisionQuantum at *
  omega

/-- A decision on no signal is quiet and selects nothing. -/
theorem idles_of_unheard {session : DetectorSession count} {evidence : DecisionEvidence count}
    (unheard : evidence.signalSamples = 0) (candidate : Fin count) :
    selectedCandidate session.detector evidence session.voices.states candidate = false ∧
      quietDecision session.detector evidence session.voices.states = true := by
  have few : evidence.minimumEvidence session.detector = false := by
    unfold DecisionEvidence.minimumEvidence
    rw [unheard]
    simp
  have insufficient : enoughEvidence session.detector evidence session.voices.states = false := by
    unfold enoughEvidence
    rw [few]
    rfl
  unfold selectedCandidate quietDecision
  rw [insufficient]
  simp

/-- A sample that leaves no signal is idle. -/
theorem idles_of_silent (event : SampleEvent) (run : DetectorRun (DetectorState Kept count))
    (silent : ((sampleMachine math stages).step run event).1.state.signal.signalSamples = 0)
    (limit : ℕ) (candidate : Fin count) :
    (DetectorSession.machine count).Meets (DetectorSession.Idles limit candidate) run.state.session
      (voiceEvents math stages run event) := by
  cases event with
  | sample value =>
      cases value with
      | none => trivial
      | some sample =>
          have unheard : ((run.state.hear math stages sample).evidence math
              stages).signalSamples = 0 := by
            change (run.state.hear math stages sample).signal.signalSamples = 0
            rw [(hear_heard run.state sample).signalSamples, ← (step_heard run sample).signalSamples]
            exact silent
          apply Transducer.meets_append
          · cases run.state.signal.loses math run.state.session.detector run.state.sounding
              sample with
            | true => exact ⟨(fun _ same => nomatch same), trivial⟩
            | false => trivial
          · by_cases more : run.decisionPhase + 1 < decisionQuantum
            · rw [if_pos more]
              trivial
            · rw [if_neg more]
              refine ⟨fun evidence same => ?_, trivial⟩
              cases same
              obtain ⟨unselected, quiet⟩ := idles_of_unheard unheard candidate
              exact ⟨unselected, .inl quiet⟩
  | retune config => exact ⟨(fun _ same => nomatch same), trivial⟩

/-- A detector whose voices have no lanes is silent after enough silence. The energy falls below
the floor, decisions become quiet, and every release comes to its end. -/
theorem exists_silent (energetic : Energetic run.state)
    (single : run.state.session.detector.laned = false) :
    ∃ quiet, ∀ length, quiet ≤ length → ∀ candidate,
      ((afterLevel math stages level run length).state.session.voices.states candidate).active =
        false := by
  obtain ⟨early, falls⟩ := @exists_below_floor math Kept count stages level run energetic
  let middle := afterLevel math stages level run early
  let limit := middle.state.session.longestRelease
  have short : limit ≤ wordLimit := by
    have seconds := min_le_right ⌈DetectorConfiguration.maximumReleaseSeconds *
      middle.state.session.detector.sampleRate / decisionQuantum⌉₊ wordLimit
    exact max_le (by decide) seconds
  refine ⟨early + decisionQuantum * (limit + 1), fun length late candidate => ?_⟩
  obtain ⟨rest, rfl⟩ : ∃ rest, length = early + rest := ⟨length - early, by omega⟩
  have long : decisionQuantum * (limit + 1) ≤ rest := by omega
  have releasing : middle.state.session.Releasing limit := by
    refine ⟨middle.state.sound, ?_, le_rfl⟩
    rw [afterLevel_detector]
    exact single
  have silent : (sampleMachine math stages).Meets (fun run event =>
      ((sampleMachine math stages).step run event).1.state.signal.signalSamples = 0) middle
        (List.replicate rest (.sample (some level))) := by
    apply Transducer.meets_replicate
    intro later _
    change ((sampleMachine math stages).step (afterLevel math stages level middle later)
      (.sample (some level))).1.state.signal.signalSamples = 0
    have below := falls (early + (later + 1)) (by omega)
    rw [← afterLevel_succ, ← afterLevel_add]
    have heard := @afterLevel_heard math Kept count stages level run (early + later)
    rw [← Nat.add_assoc] at below ⊢
    rw [heard.signalSamples]
    apply SignalState.signalSamples_hear
    rw [SignalState.fastEnergy_hear, ← heard.fastEnergy, afterLevel_detector]
    exact below
  have idles := @Transducer.Meets.trace _ _ _ _ _ _ (sampleMachine math stages)
    (voiceEvents math stages) (DetectorSession.machine count) (fun run => run.state.session)
    (Option.map DetectorDecision.transitions) _ (DetectorSession.Idles limit candidate)
    run_voiceEvents (fun run event silent => idles_of_silent event run silent limit candidate)
    middle _ silent
  have ends := releasing.silent_of_idles short idles (decisions_afterLevel long)
  rw [run_voices] at ends
  rw [afterLevel_add]
  exact ends

/-- **Silence ends all notes.** Whatever a detector without lanes has heard, and however its
parameters have been changed, no voice sounds once the input has stood still for long enough. -/
theorem DetectorState.silence_releases {kept : Kept} {fresh : DetectorConfiguration}
    {sampleRate : Option ℚ} {config : PersistentConfig}
    (valid : validConfig sampleRate config = true)
    (single : ¬ (config.profileMode = .m3 ∧ config.midiRouting = .perVoice))
    {stages : M3Stages Kept (config.highestNote - config.lowestNote + 1)}
    (events : List SampleEvent) (level : ℚ) :
    ∃ quiet, ∀ length, quiet ≤ length →
      ∀ candidate, (((sampleMachine math stages).run (start math kept fresh valid)
        (events ++ List.replicate length (.sample (some level)))).1.state.session.voices.states
          candidate).active = false := by
  have energetic := @run_energetic math Kept kept fresh sampleRate config stages valid events
  have lanes := (@run_sameStructure Kept _ math stages (start math kept fresh valid) events).laned
  obtain ⟨quiet, ends⟩ := @exists_silent math Kept _ stages level _ energetic
    (lanes.trans (DetectorSession.start_single valid single))
  refine ⟨quiet, fun length late candidate => ?_⟩
  rw [Transducer.run_append]
  exact ends length late candidate

end Silence

section Onset

variable {Kept : Type} {count : ℕ} {stages : M3Stages Kept count}

/-- A sample leaves a signal. -/
def Signals (math : StandardMath) (stages : M3Stages Kept count)
    (run : DetectorRun (DetectorState Kept count)) (event : SampleEvent) : Prop :=
  ∀ sample, event = .sample (some sample) →
    ((sampleMachine math stages).step run event).1.state.signal.signalPresent = true

/-- A finite sample weighs one, everything else nothing. -/
def samples : SampleEvent → ℕ
  | .sample (some _) => 1
  | .sample none => 0
  | .retune _ => 0

/-- The length of the signal counts the samples that have left one. -/
theorem Energetic.signalSamples_step {run : DetectorRun (DetectorState Kept count)}
    (energetic : Energetic run.state) (event : SampleEvent) :
    let next := ((sampleMachine math stages).step run event).1
    next.state.signal.signalSamples = 0 ∨ (Signals math stages run event ∧
      next.state.signal.signalSamples ≤ run.state.signal.signalSamples + samples event) := by
  cases event with
  | sample value =>
      cases value with
      | none => exact .inr ⟨(fun _ same => nomatch same), le_rfl⟩
      | some sample =>
          have heard := @step_heard math Kept count stages run sample
          have cases := @SignalState.signalSamples_hear_cases math run.state.session.detector
            run.state.signal run.state.sounding sample energetic.flagged
          dsimp only at cases
          rw [← heard.signalSamples, ← heard.signalPresent] at cases
          exact cases.imp id fun ⟨present, counted⟩ => ⟨fun _ _ => present, counted⟩
  | retune candidate => exact .inr ⟨(fun _ same => nomatch same), le_rfl⟩

/-- A voice of the general profile needs a signal of some length. -/
theorem begins_signal {run : DetectorRun (DetectorState Kept count)}
    (general : run.state.session.detector.profileMode = .general) {sample : ℚ}
    {candidate : Fin count} :
    let next := ((sampleMachine math stages).step run (.sample (some sample))).1.state
    (run.state.session.voices.states candidate).active = false →
      (next.session.voices.states candidate).active = true →
        run.state.session.detector.sampleRate * DetectorConfiguration.singleVoiceEvidenceSeconds ≤
          next.signal.signalSamples := by
  intro next silent begins
  let heard := run.state.hear math stages sample
  have quiet : (heard.session.voices.states candidate).active = false := by
    change ((run.state.hear math stages sample).session.voices.states candidate).active = false
    rw [DetectorState.session_hear]
    split_ifs <;> exact silent
  have detector : heard.session.detector = run.state.session.detector :=
    (@hear_heard math _ _ stages run.state sample).detector
  have outcome : next = heard ∨ next = heard.decided math stages := by
    change ((pitchDetector math stages).processSample run sample).2.state = _ ∨
      ((pitchDetector math stages).processSample run sample).2.state = _
    unfold PolyphonicPitchDetector.processSample
    dsimp only
    split_ifs
    · exact .inl rfl
    · exact .inr rfl
  rcases outcome with same | same
  · rw [same, quiet] at begins
    cases begins
  rw [same] at begins ⊢
  have selected := heard.sound.selected_of_begins quiet begins
  unfold selectedCandidate enoughEvidence at selected
  rw [Bool.and_eq_true, Bool.and_eq_true] at selected
  have enough := selected.1.1
  unfold DecisionEvidence.minimumEvidence at enough
  have alone : (heard.evidence math stages).hadActiveMultiStringGroup = false := by
    unfold DecisionEvidence.hadActiveMultiStringGroup
    rw [List.any_eq_false]
    intro other _
    change ¬ (decide (heard.session.detector.profileMode = .m3) && _) = true
    rw [detector, general]
    simp
  rw [alone, Bool.false_or, Bool.and_eq_true, decide_eq_true_eq] at enough
  rw [← detector]
  exact enough.2

/-- **No voice before its signal.** In the general profile, a sample that begins a voice is the
last of a streak of samples that have all left a signal, as long as the evidence of a single voice
takes. -/
theorem DetectorState.onset_streak {kept : Kept} {fresh : DetectorConfiguration}
    {sampleRate : Option ℚ} {config : PersistentConfig}
    (valid : validConfig sampleRate config = true) (general : config.profileMode = .general)
    {stages : M3Stages Kept (config.highestNote - config.lowestNote + 1)}
    (events : List SampleEvent) (sample : ℚ)
    (candidate : Fin (config.highestNote - config.lowestNote + 1)) :
    let reached := ((sampleMachine math stages).run (start math kept fresh valid) events).1
    let next := ((sampleMachine math stages).step reached (.sample (some sample))).1
    (reached.state.session.voices.states candidate).active = false →
      (next.state.session.voices.states candidate).active = true →
        ∃ length : ℕ,
          sampleRate.getD 0 * DetectorConfiguration.singleVoiceEvidenceSeconds ≤ length ∧
            (sampleMachine math stages).Streak (Signals math stages) samples
              (start math kept fresh valid) (events ++ [.sample (some sample)]) length := by
  intro reached next silent begins
  have same := @run_sameStructure Kept _ math stages (start math kept fresh valid) events
  have fields : (DetectorSession.start fresh sampleRate config).detector.profileMode = .general ∧
      (DetectorSession.start fresh sampleRate config).detector.sampleRate = sampleRate.getD 0 := by
    unfold DetectorSession.start
    rw [DetectorSession.configure_eq valid]
    exact ⟨general, rfl⟩
  have profile := same.profile.trans fields.1
  have long := begins_signal profile silent begins
  rw [same.sampleRate.trans fields.2] at long
  have streak := @Transducer.exists_streak _ _ _ (sampleMachine math stages)
    (Signals math stages) samples (start math kept fresh valid) (fun run => Energetic run.state)
    (fun run => run.state.signal.signalSamples)
    (fun _ event holds => holds.step event) (fun _ event holds => holds.signalSamples_step event)
    (start_energetic valid) rfl (events ++ [.sample (some sample)])
  refine ⟨_, long, ?_⟩
  rw [Transducer.run_concat] at streak
  exact streak

end Onset

/-- A tone that is long enough to be heard as signal. -/
theorem DetectorState.onset_streak_tone :
    ∃ length : ℕ, (220 : ℚ) * DetectorConfiguration.singleVoiceEvidenceSeconds ≤ length ∧
      (sampleMachine rationalMath (noStages 1)).Streak (Signals rationalMath (noStages 1)) samples
        (start rationalMath () {} lowConfig_valid) (tone 63 ++ [.sample (some 0)]) length :=
  @onset_streak rationalMath Unit () {} (some 220) lowConfig lowConfig_valid rfl (noStages 1)
    (tone 63) 0 ⟨0, by decide⟩ (by decide +kernel) (by decide +kernel)

/-- A tone, and then a silence that ends what it has begun. -/
theorem DetectorState.silence_releases_tone :
    ∃ quiet, ∀ length, quiet ≤ length →
      ∀ candidate, (((sampleMachine rationalMath (noStages _)).run
        (start rationalMath () {} lowConfig_valid) (tone 64 ++ List.replicate length
          (.sample (some 0)))).1.state.session.voices.states candidate).active = false :=
  @silence_releases rationalMath Unit () {} (some 220) lowConfig lowConfig_valid (by decide)
    (noStages _) (tone 64) 0

end M3Midi
