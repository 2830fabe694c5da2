import M3Midi.Detector.VoiceCount
import M3Midi.Foundation.Transducer
import M3Midi.Parameter.Boundary
import Mathlib.Tactic.Linarith

/-! # A detector between two resets

A detector is configured once and then decides again and again. Between decisions the signal
may be lost, and runtime parameters may change; what the voices depend on besides stays as it
was configured. Whatever the decisions are given, no run of a detector ever has more voices than
the configuration allows, and every transition it emits is valid
(`M3Midi.DetectorSession.run_sound`); without lanes nothing that a decision requests is lost
(`M3Midi.DetectorSession.run_complete`).
-/

namespace M3Midi

open Foundation CandidateDecision

/-- A configured detector, the configuration that runs and the voices there are. The energies and
resonators are left out here. Decisions come with their evidence. -/
structure DetectorSession (count : ℕ) where
  config : PersistentConfig
  detector : DetectorConfiguration
  voices : VoiceState count := {}

/-- What happens to a detector between two resets. -/
inductive DetectorEvent (count : ℕ)
  | decide (evidence : DecisionEvidence count)
  | loseSignal
  | retune (candidate : PersistentConfig)

namespace DetectorSession

/-- A detector as `configure` leaves it. -/
def start (fresh : DetectorConfiguration) (sampleRate : Option ℚ) (config : PersistentConfig) :
    DetectorSession (config.highestNote - config.lowestNote + 1) where
  config := config
  detector := (fresh.configure sampleRate config).2

variable {count : ℕ}

/-- An accepted change of runtime parameters, as `process` applies it. -/
def retune (session : DetectorSession count) (candidate : PersistentConfig) :
    DetectorSession count :=
  let active := copyRuntimeConfig session.config candidate
  { session with
    config := active
    detector := session.detector.setRuntimeConfig active }

/-- A detector emits the transitions of each decision. -/
def machine (count : ℕ) :
    Transducer (DetectorEvent count) (DetectorSession count) (List VoiceTransition) where
  step session
    | .decide evidence =>
        let decided := session.voices.makeDecision session.detector evidence
        ({ session with voices := decided.2 }, [decided.1])
    | .loseSignal => ({ session with voices := session.voices.loseSignal }, [])
    | .retune candidate => (session.retune candidate, [])

/-- What holds of a detector from its configuration on. -/
structure Sound (session : DetectorSession count) : Prop where
  notes : session.detector.lowestNote + count ≤ 128
  velocity : 0 < session.detector.fixedVelocity ∧ session.detector.fixedVelocity ≤ 127
  polyphony : session.detector.maxPolyphony ≤ maxVoices
  clocked : 0 < session.detector.sampleRate
  adopted : session.detector.setRuntimeConfig session.config = session.detector
  few : voiceCount session.voices.states ≤ session.detector.maxPolyphony

section Start

variable {fresh : DetectorConfiguration} {sampleRate : Option ℚ} {config : PersistentConfig}

/-- A valid configuration replaces all that depends on the rate and the range, whatever the
detector had before. -/
theorem configure_eq (valid : validConfig sampleRate config = true) :
    fresh.configure sampleRate config = (true, { fresh.setRuntimeConfig config with
      configured := true
      sampleRate := sampleRate.getD 0
      lowestNote := config.lowestNote
      candidateCount := config.highestNote - config.lowestNote + 1 }) := by
  unfold DetectorConfiguration.configure
  rw [if_neg (ne_false_of_eq_true valid)]

/-- The runtime configuration clamps the velocity to what a note-on may carry. -/
theorem runtime_velocity (detector : DetectorConfiguration) (config : PersistentConfig) :
    0 < (detector.setRuntimeConfig config).fixedVelocity ∧
      (detector.setRuntimeConfig config).fixedVelocity ≤ 127 := by
  unfold DetectorConfiguration.setRuntimeConfig
  dsimp only
  omega

/-- It clamps the polyphony to the number of lanes. -/
theorem runtime_polyphony (detector : DetectorConfiguration) (config : PersistentConfig) :
    (detector.setRuntimeConfig config).maxPolyphony ≤ maxVoices := by
  unfold DetectorConfiguration.setRuntimeConfig maxVoices
  dsimp only
  omega

/-- Nobody sounds at the start. -/
theorem voiceCount_fresh : voiceCount (fun _ : Fin count => ({} : CandidateState)) = 0 := by
  unfold voiceCount
  simp

/-- A session that starts with a valid configuration is sound. -/
theorem start_sound (valid : validConfig sampleRate config = true) :
    (start fresh sampleRate config).Sound := by
  have configured := @configure_eq fresh sampleRate config valid
  have ranges := valid
  simp only [validConfig, Bool.and_eq_true, decide_eq_true_eq] at ranges
  have highest : config.highestNote ≤ 108 := ranges.1.1.1.1.1.2
  have ordered : config.lowestNote ≤ config.highestNote := ranges.1.1.1.1.1.1.2
  unfold start
  rw [configured]
  constructor
  · change config.lowestNote + (config.highestNote - config.lowestNote + 1) ≤ 128
    omega
  · exact runtime_velocity fresh config
  · exact runtime_polyphony fresh config
  · have rate := ranges.1.1.1.1.1.1.1.1.1.1
    change 0 < sampleRate.getD 0
    cases sampleRate with
    | none => cases rate
    | some rate => exact of_decide_eq_true rate
  · rfl
  · rw [voiceCount_fresh]
    exact Nat.zero_le _

/-- Outside of the M3 profile with per-voice routing the session has no lanes. -/
theorem start_single (valid : validConfig sampleRate config = true)
    (single : ¬ (config.profileMode = .m3 ∧ config.midiRouting = .perVoice)) :
    (start fresh sampleRate config).detector.laned = false := by
  unfold start DetectorConfiguration.laned
  rw [configure_eq valid]
  change (decide (config.profileMode = .m3) && decide (config.midiRouting = .perVoice)) = false
  rw [← Bool.decide_and]
  exact decide_eq_false single

end Start

variable {session : DetectorSession count}

/-- Notes and velocities of every decision are MIDI data. -/
theorem Sound.inRange (sound : session.Sound) (evidence : DecisionEvidence count) :
    VoiceState.InRange session.detector evidence := by
  have bounds : 0 < session.detector.dynamicVelocity evidence.decibels ∧
      session.detector.dynamicVelocity evidence.decibels ≤ 127 := by
    unfold DetectorConfiguration.dynamicVelocity
    cases session.detector.velocityMode with
    | fixed => exact sound.velocity
    | dynamic =>
        have level : (0 : ℚ) ≤ max 0 (min ((evidence.decibels + 60) / 54) 1) ∧
            max 0 (min ((evidence.decibels + 60) / 54) 1) ≤ (1 : ℚ) :=
          ⟨le_max_left _ _, max_le zero_le_one (min_le_right _ _)⟩
        have rounded := @roundAway_mem ℚ _ _ _ _
          (1 + max 0 (min ((evidence.decibels + 60) / 54) 1) * 126) 1 127
          (by push_cast; linarith) (by push_cast; linarith)
        dsimp only
        omega
  exact ⟨sound.notes, bounds.1, bounds.2⟩

/-- What a decision does after its two loops ends no voice and begins none. -/
theorem voiceCount_makeDecision (evidence : DecisionEvidence count) :
    voiceCount (session.voices.makeDecision session.detector evidence).2.states =
      voiceCount (session.voices.attacked session.detector evidence).states :=
  voiceCount_congr fun _ => rfl

/-- It changes no key, either. -/
theorem keyTable_makeDecision (evidence : DecisionEvidence count) :
    keyTable session.detector (session.voices.makeDecision session.detector evidence).2.states =
      keyTable session.detector (session.voices.attacked session.detector evidence).states := by
  funext candidate
  exact voiceKeys_congr rfl rfl rfl

/-- A change of runtime parameters leaves alone how many voices there may be and how they are
routed. -/
theorem Sound.retune (sound : session.Sound) (candidate : PersistentConfig) :
    (session.retune candidate).Sound ∧
      (session.retune candidate).detector.midiRouting = session.detector.midiRouting ∧
      (session.retune candidate).detector.profileMode = session.detector.profileMode ∧
      (session.retune candidate).detector.maxPolyphony = session.detector.maxPolyphony := by
  have routing := congrArg DetectorConfiguration.midiRouting sound.adopted
  have profile := congrArg DetectorConfiguration.profileMode sound.adopted
  have polyphony := congrArg DetectorConfiguration.maxPolyphony sound.adopted
  have same : (session.retune candidate).detector.midiRouting = session.detector.midiRouting ∧
      (session.retune candidate).detector.profileMode = session.detector.profileMode ∧
      (session.retune candidate).detector.maxPolyphony = session.detector.maxPolyphony :=
    ⟨routing, profile, polyphony⟩
  refine ⟨⟨sound.notes, runtime_velocity _ _, runtime_polyphony _ _, sound.clocked, rfl, ?_⟩, same⟩
  rw [same.2.2]
  exact sound.few

/-- A decision keeps a session sound, whatever the evidence is. -/
theorem Sound.decide (sound : session.Sound) (evidence : DecisionEvidence count) :
    { session with
      voices := (session.voices.makeDecision session.detector evidence).2 : DetectorSession
        count }.Sound := by
  refine ⟨sound.notes, sound.velocity, sound.polyphony, sound.clocked, sound.adopted, ?_⟩
  have most := @VoiceState.voiceCount_attacked _ session.detector evidence session.voices
    (sound.inRange evidence)
  change voiceCount (session.voices.makeDecision session.detector evidence).2.states ≤
    session.detector.maxPolyphony
  rw [voiceCount_makeDecision]
  exact most.trans (max_le sound.few le_rfl)

theorem Sound.step (sound : session.Sound) (event : DetectorEvent count) :
    ((machine count).step session event).1.Sound := by
  cases event with
  | decide evidence => exact sound.decide evidence
  | loseSignal =>
      exact ⟨sound.notes, sound.velocity, sound.polyphony, sound.clocked, sound.adopted, sound.few⟩
  | retune candidate => exact (sound.retune candidate).1

/-- Every run keeps a session sound, by induction on its events. -/
theorem Sound.run (sound : session.Sound) (events : List (DetectorEvent count)) :
    ((machine count).run session events).1.Sound :=
  @Transducer.run_preserves _ _ _ (machine count) Sound (fun _ event holds => holds.step event) _
    sound events

/-- What does not change between two resets. Runtime changes may come in between, and they leave it
alone. -/
structure SameStructure (before after : DetectorSession count) : Prop where
  routing : after.detector.midiRouting = before.detector.midiRouting
  profile : after.detector.profileMode = before.detector.profileMode
  polyphony : after.detector.maxPolyphony = before.detector.maxPolyphony
  lowest : after.detector.lowestNote = before.detector.lowestNote
  sampleRate : after.detector.sampleRate = before.detector.sampleRate

/-- Whether voices have lanes is part of the structure. -/
theorem SameStructure.laned {before after : DetectorSession count}
    (same : SameStructure before after) : after.detector.laned = before.detector.laned := by
  unfold DetectorConfiguration.laned
  rw [same.routing, same.profile]

theorem SameStructure.trans {first second third : DetectorSession count}
    (earlier : SameStructure first second) (later : SameStructure second third) :
    SameStructure first third where
  routing := later.routing.trans earlier.routing
  profile := later.profile.trans earlier.profile
  polyphony := later.polyphony.trans earlier.polyphony
  lowest := later.lowest.trans earlier.lowest
  sampleRate := later.sampleRate.trans earlier.sampleRate

/-- An event of a session leaves its structure alone. -/
theorem Sound.sameStructure (sound : session.Sound) (event : DetectorEvent count) :
    SameStructure session ((machine count).step session event).1 := by
  cases event with
  | decide evidence => exact ⟨rfl, rfl, rfl, rfl, rfl⟩
  | loseSignal => exact ⟨rfl, rfl, rfl, rfl, rfl⟩
  | retune candidate =>
      obtain ⟨routing, profile, polyphony⟩ := (sound.retune candidate).2
      exact ⟨routing, profile, polyphony, rfl, rfl⟩

theorem Sound.run_structure (sound : session.Sound) (events : List (DetectorEvent count)) :
    SameStructure session ((machine count).run session events).1 := by
  have kept := @Transducer.run_preserves _ _ _ (machine count)
    (fun reached => reached.Sound ∧ SameStructure session reached)
    (fun reached event holds => ⟨holds.1.step event,
      holds.2.trans (holds.1.sameStructure event)⟩) session ⟨sound, ⟨rfl, rfl, rfl, rfl, rfl⟩⟩ events
  exact kept.2

/-- The transitions of a decision fit their buffer, and are valid. -/
theorem Sound.transitions (sound : session.Sound) (evidence : DecisionEvidence count) :
    (session.voices.makeDecision session.detector evidence).1.length ≤ maxTickTransitions ∧
      ∀ transition ∈ (session.voices.makeDecision session.detector evidence).1,
        GeneratedNoteLedger.validTransition transition = true := by
  have filled := @VoiceState.attacked_filled _ session.detector evidence session.voices
    (sound.inRange evidence)
  constructor
  · change (session.voices.attacked session.detector evidence).transitions.length ≤ _
    rw [filled.stored.length]
    exact Nat.min_le_left _ _
  · intro transition member
    have appended : transition.appended ∈
        (session.voices.attacked session.detector evidence).transitions.map
          VoiceTransition.appended := List.mem_map_of_mem member
    rw [filled.stored.first] at appended
    exact filled.valid _ (List.mem_of_mem_take appended) transition.sampleOffset transition.sequence

/-- **No more voices than there may be.** Whatever a detector is given after it has been
configured, never more candidates sound than the configuration allows voices, and all it emits
fits the buffers of its decisions and is valid. -/
theorem run_sound {fresh : DetectorConfiguration} {sampleRate : Option ℚ}
    {config : PersistentConfig} (valid : validConfig sampleRate config = true)
    (events : List (DetectorEvent (config.highestNote - config.lowestNote + 1))) :
    voiceCount ((machine _).run (start fresh sampleRate config) events).1.voices.states ≤
        config.maxPolyphony ∧
      ∀ transitions ∈ ((machine _).run (start fresh sampleRate config) events).2,
        transitions.length ≤ maxTickTransitions ∧
          ∀ transition ∈ transitions, GeneratedNoteLedger.validTransition transition = true := by
  have sound := @start_sound fresh sampleRate config valid
  constructor
  · have polyphony : (start fresh sampleRate config).detector.maxPolyphony = config.maxPolyphony := by
      have ranges := valid
      simp only [validConfig, Bool.and_eq_true, decide_eq_true_eq] at ranges
      have low : 1 ≤ config.maxPolyphony := ranges.1.1.1.1.2
      have high : config.maxPolyphony ≤ maxVoices := ranges.1.1.1.2
      unfold start
      rw [configure_eq valid]
      change max 1 (min config.maxPolyphony maxVoices) = config.maxPolyphony
      rw [min_eq_left high, max_eq_right low]
    rw [← polyphony, ← (sound.run_structure events).polyphony]
    exact (sound.run events).few
  · have kept := @Transducer.run_invariant _ _ _ (machine _)
      (fun log (reached : DetectorSession _) => reached.Sound ∧ ∀ transitions ∈ log,
        transitions.length ≤ maxTickTransitions ∧
          ∀ transition ∈ transitions, GeneratedNoteLedger.validTransition transition = true) ?_
      [] (start fresh sampleRate config) ⟨sound, List.forall_mem_nil _⟩ events
    · exact kept.2
    · intro log reached event ⟨holds, fine⟩
      refine ⟨holds.step event, ?_⟩
      intro transitions member
      rcases List.mem_append.mp member with earlier | latest
      · exact fine transitions earlier
      · cases event with
        | decide evidence =>
            rw [List.mem_singleton.mp latest]
            exact holds.transitions evidence
        | loseSignal => exact absurd latest List.not_mem_nil
        | retune candidate => exact absurd latest List.not_mem_nil

/-- A single candidate in the general profile, with the quickest attack and release. -/
def loneConfig : PersistentConfig :=
  { profileMode := .general, response := 0, lowestNote := 40, highestNote := 40 }

/-- A steady signal at the pitch of a single candidate. -/
def loneEvidence : DecisionEvidence 1 where
  fastEnergy := 1
  slowEnergy := 1
  signalSamples := 48000
  candidate _ := { score := 1, fundamental := 1, feasible := true, assignedStringMask := 3 }

/-- The configuration with one candidate is valid. -/
theorem loneConfig_valid : validConfig (some 4800) loneConfig = true := by decide +kernel

/-- Eight candidates in the general profile, with the quickest attack and release. -/
def pairConfig : PersistentConfig :=
  { profileMode := .general, response := 0, lowestNote := 40, highestNote := 47 }

/-- A steady signal at the pitch of the first candidate, unless it has faded, and of the last. -/
def pairEvidence (faded : Bool) : DecisionEvidence 8 where
  fastEnergy := 1
  slowEnergy := 1
  signalSamples := 48000
  candidate index :=
    if index.val = 0 ∧ faded = false ∨ index.val = 7 then
      { score := 1, fundamental := 1, feasible := true, assignedStringMask := 3 }
    else {}

/-- The configuration with two candidates is valid. -/
theorem pairConfig_valid : validConfig (some 4800) pairConfig = true := by decide +kernel

/-- Two voices begin together, and both end with the signal. -/
theorem run_sound_pair :
    voiceCount ((machine 8).run (start {} (some 4800) pairConfig)
        [.decide (pairEvidence false)]).1.voices.states = 2 ∧
      let outcome := (machine 8).run (start {} (some 4800) pairConfig)
        [.decide (pairEvidence false), .loseSignal]
      voiceCount outcome.1.voices.states ≤ 8 ∧ ∀ transitions ∈ outcome.2,
        transitions.length ≤ maxTickTransitions ∧
          ∀ transition ∈ transitions, GeneratedNoteLedger.validTransition transition = true :=
  ⟨by decide +kernel, run_sound pairConfig_valid _⟩

/-- **Nothing is lost without lanes.** In a run of a detector that is not in the M3 profile with
per-voice routing, every decision emits all that it requests, and that is at most two
transitions for each of the eight voices. -/
theorem run_complete {fresh : DetectorConfiguration} {sampleRate : Option ℚ}
    {config : PersistentConfig} (valid : validConfig sampleRate config = true)
    (single : ¬ (config.profileMode = .m3 ∧ config.midiRouting = .perVoice))
    (events : List (DetectorEvent (config.highestNote - config.lowestNote + 1)))
    (evidence : DecisionEvidence (config.highestNote - config.lowestNote + 1)) :
    let session := ((machine _).run (start fresh sampleRate config) events).1
    (session.voices.makeDecision session.detector evidence).1.map VoiceTransition.appended =
        (session.voices.attacked session.detector evidence).requested ∧
      (session.voices.attacked session.detector evidence).requested.length ≤
        VoiceState.singleTransitions := by
  intro session
  have started := @start_sound fresh sampleRate config valid
  have sound : session.Sound := started.run events
  have lanes : session.detector.laned = false := by
    rw [(started.run_structure events).laned]
    exact start_single valid single
  have few := sound.few.trans sound.polyphony
  exact ⟨VoiceState.attacked_complete (sound.inRange evidence) lanes few sound.polyphony,
    VoiceState.attacked_room (sound.inRange evidence) lanes few sound.polyphony⟩

/-- A decision after the signal has been lost, with one candidate. -/
theorem run_complete_lone :
    let session := ((machine 1).run (start {} (some 4800) loneConfig) [.loseSignal]).1
    (session.voices.makeDecision session.detector loneEvidence).1.map VoiceTransition.appended =
        (session.voices.attacked session.detector loneEvidence).requested ∧
      (session.voices.attacked session.detector loneEvidence).requested.length ≤
        VoiceState.singleTransitions :=
  run_complete loneConfig_valid (by decide) _ _

end DetectorSession

end M3Midi
