import M3Midi.Component.StartedPlugin
import M3Midi.Detector.LedgerAgreement
import M3Midi.Detector.SilentInput
import M3Midi.Ledger.HostView

/-! # The notes of a stream

From the samples a host gives to the note events it gets: in the general profile a plug-in gives
every sample to its detector and delivers every transition, so that after each block the host has
open exactly the notes of the detector's voices (`M3Midi.StartedPlugin.stream_notes`). Silence
leaves it none (`M3Midi.StartedPlugin.silence_ends_notes`).
-/

namespace M3Midi

open Foundation GeneratedNoteLedger

namespace StreamBlock

variable {layout : ChannelLayout} {block : StreamBlock layout}

/-- A block without a sound. -/
def Silent (block : StreamBlock layout) : Prop :=
  ∀ frame ∈ block.frames, frame.left = some 0 ∧ frame.right = some 0

/-- A silent block is heard as zeros, whatever the gain. -/
theorem Silent.heard (silent : block.Silent) (gain : ℚ) :
    block.heard gain = List.replicate block.frames.length 0 := by
  rw [List.eq_replicate_iff]
  refine ⟨List.length_map _, fun sample member => ?_⟩
  obtain ⟨frame, there, rfl⟩ := List.mem_map.mp member
  obtain ⟨left, right⟩ := silent frame there
  unfold DetectorInput.selectedSample
  rw [left, right]
  simp

end StreamBlock

/-- Silent blocks are heard as one silence. -/
theorem heard_silent {layout : ChannelLayout} {blocks : List (StreamBlock layout)}
    (silent : ∀ block ∈ blocks, block.Silent) (gain : ℚ) :
    (blocks.flatMap fun block => block.heard gain) =
      List.replicate (blocks.flatMap StreamBlock.frames).length 0 := by
  induction blocks with
  | nil => rfl
  | cons block blocks ih =>
      obtain ⟨first, rest⟩ := List.forall_mem_cons.mp silent
      rw [List.flatMap_cons, List.flatMap_cons, first.heard, ih rest, List.length_append,
        List.replicate_add]

namespace StartedPlugin

variable {factory : StringCalibrationBank} (plugin : StartedPlugin factory) {Kept : Type}

/-- How many candidates its detector has. -/
abbrev candidates : ℕ := plugin.config.highestNote - plugin.config.lowestNote + 1

/-- The plug-in before its first block. -/
def stream (math : StandardMath) (kept : Kept) :
    HostStream (DetectorState Kept plugin.candidates) where
  component := plugin.component
  detector := DetectorState.start math kept {} plugin.valid

/-- A block that the plug-in takes. -/
def Takes {layout : ChannelLayout} (block : StreamBlock layout) : Prop :=
  block.input.nonfiniteInput = false ∧
    1 ≤ block.frames.length ∧ block.frames.length ≤ plugin.maxFrames

/-- What the detector hears of blocks. -/
def heard {layout : ChannelLayout} (decibelGain : ℚ → ℚ) (blocks : List (StreamBlock layout)) :
    List ℚ :=
  blocks.flatMap fun block => block.heard (decibelGain plugin.config.inputTrimDb)

/-- No voice sounds before the first block. -/
theorem voices_start (slot : Fin maxVoices) : plugin.component.generatedNotes.voices slot = {} := by
  rw [plugin.begun.notes]

/-- When the plug-in is started, no note is active. -/
theorem activeCount_start : plugin.component.generatedNotes.activeCount = 0 := by
  rw [plugin.begun.notes]

variable {math : StandardMath} {stages : M3Stages Kept plugin.candidates} {kept : Kept}
  {layout : ChannelLayout} {decibelGain : ℚ → ℚ} {plugin}

/-- What comes of samples that are heard one after the other in the general profile: the ledger
takes all of it, and the host has open the notes of the voices. -/
theorem heardOutcome_notes (general : plugin.config.profileMode = .general) (samples : List ℚ) :
    let start := plugin.stream math kept
    let reached := ((pitchDetector math stages).samples.run start.detector samples).1
    ∃ taken, heardLedger (pitchDetector math stages) plugin.config start.detector
        plugin.component.generatedNotes.settled 0 samples = some taken ∧
      openNotes (heardOutcome (pitchDetector math stages) plugin.config start.detector
        plugin.component.generatedNotes.settled 0 samples).notes = some taken.hostNotes ∧
      taken.hostNotes.map Prod.fst = (reached.state.session.notes : Multiset ℕ) := by
  intro start reached
  have sampled := @run_samples Kept plugin.candidates math stages start.detector samples
  have voices := @run_voices Kept plugin.candidates math stages start.detector
    (samples.map fun sample => .sample (some sample))
  rw [sampled] at voices
  obtain ⟨taken, accepted, names⟩ := @DetectorSession.general_names plugin.config.midiChannel
    plugin.component.generatedNotes.settled {} plugin.sampleRate plugin.config plugin.valid general
    plugin.midiChannel 0 plugin.voices_start plugin.activeCount_start
    ((sampleMachine math stages).trace (voiceEvents math stages) start.detector
      (samples.map fun sample => .sample (some sample)))
  have session : (DetectorSession.machine plugin.candidates).run
      (DetectorSession.start {} plugin.sampleRate plugin.config) _ = _ := voices
  rw [session] at accepted names
  have here : heardLedger (pitchDetector math stages) plugin.config start.detector
      plugin.component.generatedNotes.settled 0 samples = some taken := by
    rw [← accepted]
    exact takeTicks_decisions _ 0 0
  have silent : plugin.component.generatedNotes.settled.hostNotes = 0 := by
    change plugin.component.generatedNotes.hostNotes = 0
    rw [plugin.begun.notes]
    rfl
  have replayed := replay_takeTicks here
  rw [silent] at replayed
  refine ⟨taken, here, replayed, ?_⟩
  rw [pitches_hostNotes, names, Multiset.map_coe, List.map_map]
  exact congrArg _ (List.map_id _)

/-- Blocks are heard as their samples are, one after the other. -/
theorem run_heard (general : plugin.config.profileMode = .general)
    {blocks : List (StreamBlock layout)} (taken : ∀ block ∈ blocks, plugin.Takes block) :
    let start := plugin.stream math kept
    let samples := plugin.heard decibelGain blocks
    let run := (blockMachine (pitchDetector math stages) layout decibelGain).run start blocks
    BlockOutcome.gather run.2 = heardOutcome (pitchDetector math stages) plugin.config
        start.detector plugin.component.generatedNotes.settled 0 samples ∧
      run.1.detector = ((pitchDetector math stages).samples.run start.detector samples).1 := by
  intro start samples run
  obtain ⟨ledger, accepted, -⟩ :=
    @heardOutcome_notes factory plugin Kept math stages kept general samples
  obtain ⟨before, early, -⟩ :=
    @heardOutcome_notes factory plugin Kept math stages kept general samples.dropLast
  obtain ⟨gathered, ends⟩ := @run_finite _ layout (pitchDetector math stages) decibelGain
    plugin.maxFrames plugin.config start _ blocks (plugin.ready start.detector).taking
    (fun block member => (taken block member).2) (fun block member => (taken block member).1)
    samples rfl (Option.isSome_iff_exists.mpr ⟨before, early⟩)
  obtain ⟨-, reached, -⟩ := ends ledger accepted
  exact ⟨gathered, reached⟩

/-- **The host has open what the detector keeps.** A plug-in in the general profile gives every
sample of its blocks to the detector, and the note events it delivers leave open at the host exactly
the notes of the voices, each once. -/
theorem stream_notes (general : plugin.config.profileMode = .general)
    {blocks : List (StreamBlock layout)} (taken : ∀ block ∈ blocks, plugin.Takes block) :
    let run := (blockMachine (pitchDetector math stages) layout decibelGain).run
      (plugin.stream math kept) blocks
    let outcome := BlockOutcome.gather run.2
    outcome.given = timeline 0 (plugin.heard decibelGain blocks) ∧
      ∃ held, openNotes outcome.notes = some held ∧
        held.map Prod.fst = (run.1.detector.state.session.notes : Multiset ℕ) := by
  intro run outcome
  obtain ⟨gathered, reached⟩ :=
    @run_heard factory plugin Kept math stages kept layout decibelGain general blocks taken
  obtain ⟨ledger, -, opens, notes⟩ := @heardOutcome_notes factory plugin Kept math stages kept
    general (plugin.heard decibelGain blocks)
  refine ⟨congrArg BlockOutcome.given gathered, ledger.hostNotes, ?_, ?_⟩
  · exact (congrArg (fun outcome => openNotes outcome.notes) gathered).trans opens
  · rw [notes, ← reached]

/-- **Silence ends all notes, at the host.** Whatever a plug-in in the general profile has been
given, silent blocks that together are long enough leave no note open, however they are cut. -/
theorem silence_ends_notes (general : plugin.config.profileMode = .general)
    {blocks : List (StreamBlock layout)} (taken : ∀ block ∈ blocks, plugin.Takes block) :
    ∃ quiet, ∀ silence : List (StreamBlock layout),
      (∀ block ∈ silence, plugin.Takes block ∧ block.Silent) →
        quiet ≤ (silence.flatMap StreamBlock.frames).length →
          openNotes (BlockOutcome.gather ((blockMachine (pitchDetector math stages) layout
            decibelGain).run (plugin.stream math kept) (blocks ++ silence)).2).notes = some 0 := by
  let start := (plugin.stream math kept).detector
  let samples := plugin.heard decibelGain blocks
  let events : List SampleEvent := samples.map fun sample => .sample (some sample)
  have energetic := @DetectorState.run_energetic math Kept kept {} plugin.sampleRate plugin.config
    stages plugin.valid events
  have lanes := (@run_sameStructure Kept _ math stages start events).laned
  have single : ¬ (plugin.config.profileMode = .m3 ∧ plugin.config.midiRouting = .perVoice) := by
    intro both
    exact ProfileMode.noConfusion (general.symm.trans both.1)
  obtain ⟨quiet, ends⟩ := @exists_silent math Kept _ stages 0 _ energetic
    (lanes.trans (DetectorSession.start_single plugin.valid single))
  refine ⟨quiet, fun silence silent long => ?_⟩
  have all : ∀ block ∈ blocks ++ silence, plugin.Takes block := by
    intro block member
    rcases List.mem_append.mp member with earlier | later
    · exact taken block earlier
    · exact (silent block later).1
  have heard : plugin.heard decibelGain (blocks ++ silence) =
      samples ++ List.replicate (silence.flatMap StreamBlock.frames).length 0 := by
    unfold StartedPlugin.heard
    rw [List.flatMap_append, heard_silent fun block member => (silent block member).2]
    rfl
  obtain ⟨gathered, -⟩ := @run_heard factory plugin Kept math stages kept layout decibelGain
    general (blocks ++ silence) all
  obtain ⟨ledger, -, opens, notes⟩ := @heardOutcome_notes factory plugin Kept math stages kept
    general (plugin.heard decibelGain (blocks ++ silence))
  have after : ((pitchDetector math stages).samples.run start
      (plugin.heard decibelGain (blocks ++ silence))).1 =
        afterLevel math stages 0 ((sampleMachine math stages).run start events).1
          (silence.flatMap StreamBlock.frames).length := by
    have sampled := @run_samples Kept plugin.candidates math stages start
      (samples ++ List.replicate (silence.flatMap StreamBlock.frames).length 0)
    rw [heard, ← sampled, List.map_append, Transducer.run_append, List.map_replicate]
    rfl
  have mute : (afterLevel math stages 0 ((sampleMachine math stages).run start events).1
      (silence.flatMap StreamBlock.frames).length).state.session.notes = [] := by
    unfold DetectorSession.notes
    rw [List.map_eq_nil_iff, List.filter_eq_nil_iff]
    intro candidate _
    exact ne_true_of_eq_false (ends _ long candidate)
  rw [after, mute] at notes
  have none : ledger.hostNotes = 0 := Multiset.map_eq_zero.mp notes
  rw [none] at opens
  exact (congrArg (fun outcome => openNotes outcome.notes) gathered).trans opens

end StartedPlugin

section Tone

/-- A host sets up a plug-in for one note in the general profile. -/
def lowCalls : List HostCall :=
  [.setupProcessing { maxSamplesPerBlock := 64, sampleRate := some 220 },
    .setParamNormalized 0x4D330002 (some 1), .setParamNormalized 0x4D330006 (some 0),
    .setParamNormalized 0x4D330007 (some (9 / 84)), .setParamNormalized 0x4D330008 (some (9 / 84))]

/-- A plug-in with a low range and the general profile. -/
def lowPlugin : StartedPlugin {} where
  calls := lowCalls
  prepares := by
    unfold lowCalls
    simp [HostCall.Prepares, panicParameterId]
  active := ((lowCalls.foldl (M3Component.hostStep {}) (M3Component.start {})).activate true).2
  component := (((lowCalls.foldl (M3Component.hostStep {}) (M3Component.start {})).activate
    true).2.setProcessing true).2
  activated := Prod.ext (by decide +kernel) rfl
  started := Prod.ext (by decide +kernel) rfl

/-- Its profile is the general one. -/
theorem lowPlugin_general : lowPlugin.config.profileMode = .general := by decide +kernel

/-- A block of a tone of a quarter of the sample rate. -/
def toneBlock : StreamBlock .mono where
  frames := (List.range 64).map fun index => { left := ([1, 0, -1, 0] : List ℚ)[index % 4]? }
  flagged channel flag := absurd flag (by simp)

/-- It takes the block with the tone. -/
theorem takes_toneBlock : ∀ block ∈ [toneBlock], lowPlugin.Takes block := by
  unfold StartedPlugin.Takes
  decide +kernel

/-- A block with a tone, and the notes that are given for it. -/
theorem StartedPlugin.stream_notes_tone :
    let run := (blockMachine (pitchDetector rationalMath (noStages _)) .mono fun _ => 1).run
      (lowPlugin.stream rationalMath ()) [toneBlock]
    let outcome := BlockOutcome.gather run.2
    outcome.given = timeline 0 (lowPlugin.heard (fun _ => 1) [toneBlock]) ∧
      ∃ held, openNotes outcome.notes = some held ∧
        held.map Prod.fst = (run.1.detector.state.session.notes : Multiset ℕ) :=
  @stream_notes {} lowPlugin Unit rationalMath (noStages _) () .mono (fun _ => 1) lowPlugin_general
    [toneBlock] takes_toneBlock

/-- The tone is heard as one note. -/
example :
    let run := (blockMachine (pitchDetector rationalMath (noStages _)) .mono fun _ => 1).run
      (lowPlugin.stream rationalMath ()) [toneBlock]
    openNotes (BlockOutcome.gather run.2).notes = some {(33, 1)} := by
  decide +kernel

theorem StartedPlugin.silence_ends_notes_tone :
    ∃ quiet, ∀ silence : List (StreamBlock .mono),
      (∀ block ∈ silence, lowPlugin.Takes block ∧ block.Silent) →
        quiet ≤ (silence.flatMap StreamBlock.frames).length →
          openNotes (BlockOutcome.gather ((blockMachine (pitchDetector rationalMath (noStages _))
            .mono fun _ => 1).run (lowPlugin.stream rationalMath ())
              ([toneBlock] ++ silence)).2).notes = some 0 :=
  @silence_ends_notes {} lowPlugin Unit rationalMath (noStages _) () .mono (fun _ => 1)
    lowPlugin_general [toneBlock] takes_toneBlock

end Tone

end M3Midi
