import M3Midi.Component.BlockSteps

/-! # Runs over blocks

While blocks are finite and no event is refused, what comes of them is what comes of their frames
one after the other. A block with a sample that is not finite, and a block after a refused event,
give the detector nothing.
-/

namespace M3Midi

open Foundation GeneratedNoteLedger M3Component

/-- Items at successive samples of the stream. -/
def timeline {Item : Type*} (start : ℕ) (items : List Item) : List (ℕ × Item) :=
  (items.zipIdx start).map Prod.swap

/-- The timeline of two lists is that of the first, and then that of the second from where the
first has ended. -/
theorem timeline_append {Item : Type*} (start : ℕ) (first second : List Item) :
    timeline start (first ++ second) =
      timeline start first ++ timeline (start + first.length) second := by
  rw [timeline, List.zipIdx_append, List.map_append]
  rfl

/-- A timeline is as long as its list. -/
theorem length_timeline {Item : Type*} (start : ℕ) (items : List Item) :
    (timeline start items).length = items.length := by
  rw [timeline, List.length_map, List.length_zipIdx]

/-- The entries of a timeline are those of the list, each with its time. -/
theorem getElem?_timeline {Item : Type*} (start index : ℕ) (items : List Item) :
    (timeline start items)[index]? = items[index]?.map fun item => (start + index, item) := by
  rw [timeline, List.getElem?_map, List.getElem?_zipIdx, Option.map_map]
  rfl

/-- A list is known by its timeline. -/
theorem timeline_injective {Item : Type*} {start : ℕ} {first second : List Item}
    (same : timeline start first = timeline start second) : first = second := by
  have items := congrArg (List.map Prod.snd) same
  rw [timeline, timeline, List.map_map, List.map_map] at items
  exact (List.zipIdx_map_fst start first).symm.trans
    (items.trans (List.zipIdx_map_fst start second))

/-- What a function of the frame says, frame after frame. -/
theorem timeline_eq_range {Item : Type*} (start : ℕ) (items : List Item) (default : Item) :
    ((List.range items.length).map fun index => (start + index, items.getD index default)) =
      timeline start items := by
  refine List.ext_getElem? fun index => ?_
  rw [getElem?_timeline, List.getElem?_map]
  rcases Nat.lt_or_ge index items.length with within | beyond
  · rw [List.getElem?_range within, Option.map_some, List.getD_eq_getElem?_getD,
      List.getElem?_eq_getElem within]
    rfl
  · have outside : (List.range items.length).length ≤ index := by
      rw [List.length_range]
      exact beyond
    rw [List.getElem?_eq_none outside, List.getElem?_eq_none beyond]
    rfl

/-- A list is read off at its own indices. -/
theorem range_getD {Item : Type*} (items : List Item) (default : Item) :
    ((List.range items.length).map fun index => items.getD index default) = items := by
  have timed := congrArg (List.map Prod.snd) (timeline_eq_range 0 items default)
  rw [List.map_map] at timed
  refine timed.trans ?_
  rw [timeline, List.map_map]
  exact List.zipIdx_map_fst 0 items

/-- The decisions among the outcomes of successive samples. -/
def decidedAt (start : ℕ) (outcomes : List (Option DetectorDecision)) :
    List (ℕ × List VoiceTransition) :=
  (timeline start outcomes).filterMap fun outcome =>
    outcome.2.map fun decision => (outcome.1, decision.transitions)

/-- The decisions of two stretches are those of the first and then those of the second. -/
theorem decidedAt_append (start : ℕ) (first second : List (Option DetectorDecision)) :
    decidedAt start (first ++ second) =
      decidedAt start first ++ decidedAt (start + first.length) second := by
  rw [decidedAt, timeline_append, List.filterMap_append]
  rfl

section Steps

variable {State : Type} {layout : ChannelLayout} {detector : PolyphonicPitchDetector State}
  {decibelGain : ℚ → ℚ} {maxFrames : ℕ} {config : PersistentConfig}

/-- A stream in which blocks are taken: its ledger is settled but for a pending cleanup. -/
structure Taking (maxFrames : ℕ) (config : PersistentConfig) (stream : HostStream State)
    (ledger : GeneratedNoteLedger) : Prop where
  flowing : Flowing stream.component maxFrames config
  receptive : Receptive maxFrames stream.component.generatedNotes
  empty : stream.component.generatedNotes.queue = []
  settled : stream.component.generatedNotes.settled = ledger

/-- A stream whose output is blocked. -/
structure Stopped (maxFrames : ℕ) (config : PersistentConfig) (stream : HostStream State) :
    Prop where
  flowing : Flowing stream.component maxFrames config
  blocked : stream.component.generatedNotes.outputBlocked = true
  awake : stream.component.generatedNotes.panicHold = false

variable {stream : HostStream State} {ledger : GeneratedNoteLedger} {block : StreamBlock layout}

/-- What comes of samples that are heard one after the other. -/
def heardOutcome (detector : PolyphonicPitchDetector State) (config : PersistentConfig)
    (run : DetectorRun State) (ledger : GeneratedNoteLedger) (start : ℕ) (heard : List ℚ) :
    BlockOutcome :=
  let outcomes := (detector.samples.run run heard).2
  { given := timeline start heard
    decided := decidedAt start outcomes
    notes := (takeTicks config.midiRouting config.midiChannel start (outcomes.map transitionsOf)
      ledger).1 }

/-- The ledger after samples that are heard one after the other, if no event is refused. -/
def heardLedger (detector : PolyphonicPitchDetector State) (config : PersistentConfig)
    (run : DetectorRun State) (ledger : GeneratedNoteLedger) (start : ℕ) (heard : List ℚ) :
    Option GeneratedNoteLedger :=
  (takeTicks config.midiRouting config.midiChannel start
    ((detector.samples.run run heard).2.map transitionsOf) ledger).2

/-- What a block leaves behind that is heard as a whole. -/
structure Heard (detector : PolyphonicPitchDetector State) (maxFrames : ℕ)
    (config : PersistentConfig) (before after : HostStream State) (ledger : GeneratedNoteLedger)
    (heard : List ℚ) : Prop where
  run : after.detector = (detector.samples.run before.detector heard).1
  elapsed : after.elapsed = before.elapsed + heard.length
  flowing : Flowing after.component maxFrames config
  notes : after.component.generatedNotes.Ends
    (heardLedger detector config before.detector ledger before.elapsed heard)

/-- A block of finite samples decides as its samples do one after the other, and delivers what the
decisions request, each transition at its own frame. -/
theorem step_finite (taking : Taking maxFrames config stream ledger)
    (finite : block.input.nonfiniteInput = false)
    (sized : 1 ≤ block.frames.length ∧ block.frames.length ≤ maxFrames) :
    let heard := block.heard (decibelGain config.inputTrimDb)
    let next := (blockMachine detector layout decibelGain).step stream block
    next.2 = [heardOutcome detector config stream.detector ledger stream.elapsed heard] ∧
      Heard detector maxFrames config stream next.1 ledger heard := by
  let heard := block.heard (decibelGain config.inputTrimDb)
  let outcomes := blockOutcomes detector stream.detector heard
  let audio := blockAudio block outcomes
  have length : heard.length = block.frames.length := List.length_map _
  have lengths : (detector.samples.run stream.detector heard).2.length = block.frames.length :=
    (detector.length_run heard).trans length
  have ticks : (List.range' 0 block.frames.length).map audio.decisions =
      (detector.samples.run stream.detector heard).2.map transitionsOf := by
    have all := range_getD (detector.samples.run stream.detector heard).2 none
    rw [lengths, List.range_eq_range'] at all
    conv_rhs => rw [← all]
    rw [List.map_map]
    rfl
  have room : ((List.range' 0 block.frames.length).flatMap audio.decisions).length ≤
      (maxFrames + decisionQuantum - 1) / decisionQuantum * maxTickTransitions := by
    rw [List.flatMap_def, ticks, ← List.flatMap_def]
    exact detector.length_transitions heard (length.trans_le sized.2)
  have valid : ∀ frame, ∀ transition ∈ audio.decisions frame,
      validTransition transition = true := fun frame transition => transitionsOf_valid
  obtain ⟨bounded, flows, kept, came, processed⟩ :=
    @process_stream stream.component maxFrames config layout block outcomes taking.flowing sized
      audio rfl
  have receptive : Receptive maxFrames bounded.generatedNotes := kept.symm ▸ taking.receptive
  have empty : bounded.generatedNotes.queue = [] := kept.symm ▸ taking.empty
  obtain ⟨flowsOn, pushed, ends⟩ := @Processing.processAudio_finite bounded maxFrames config
    (blockData stream.component block outcomes) audio block.frames.length flows receptive empty
    finite rfl rfl sized room valid
  have given : stream.component.givenFrames (blockData stream.component block outcomes) =
      List.range block.frames.length :=
    Processing.givenFrames_finite came rfl flows receptive empty finite rfl sized.2 room valid
  obtain ⟨notes, ledgers⟩ := @takeEvents_blockQueue config.midiRouting config.midiChannel
    bounded.generatedNotes.settled audio.decisions stream.elapsed 0 block.frames.length
  have settles : bounded.generatedNotes.settled = ledger := kept.symm ▸ taking.settled
  rw [ticks, settles, Nat.add_zero] at notes ledgers
  rw [settles, ledgers] at ends
  rw [settles] at pushed
  have samples : ((List.range block.frames.length).map fun frame =>
      (stream.elapsed + frame, heard.getD frame 0)) = timeline stream.elapsed heard := by
    rw [← length]
    exact timeline_eq_range stream.elapsed heard 0
  have decisions : ((List.range block.frames.length).filterMap fun frame =>
      (outcomes frame).map fun decision => (stream.elapsed + frame, decision.transitions)) =
        decidedAt stream.elapsed (detector.samples.run stream.detector heard).2 := by
    rw [decidedAt, ← timeline_eq_range stream.elapsed _ none, List.filterMap_map, lengths]
    rfl
  have accepted (events : List (VoiceTransition × ℕ)) :
      (events.map fun event => (⟨event.1, event.2, true⟩ : Push)).filterMap
          (Push.timed stream.elapsed) =
        events.map fun event => timedNote (stream.elapsed + event.1.sampleOffset) event.1
          event.2 := by
    rw [List.filterMap_map]
    exact congrFun List.filterMap_eq_map events
  have whole : ((List.range block.frames.length).map fun frame => heard.getD frame 0) = heard := by
    rw [← length]
    exact range_getD heard 0
  dsimp only [blockMachine]
  rw [taking.flowing.active]
  change [BlockOutcome.mk ((stream.component.givenFrames _).map _)
      ((stream.component.givenFrames _).filterMap _) _] = _ ∧ _
  rw [given, processed, samples, decisions, pushed, accepted, notes]
  refine ⟨rfl, ?_, ?_, flowsOn, ends⟩
  · exact congrArg (fun heard => (detector.samples.run stream.detector heard).1) whole
  · exact congrArg (stream.elapsed + ·) length.symm

/-- A stream that hears nothing of a block goes on with its output blocked. -/
theorem step_unheard (flowing : Flowing stream.component maxFrames config)
    (awake : stream.component.generatedNotes.panicHold = false)
    (unheard : stream.component.generatedNotes.outputBlocked = true ∨
      block.input.nonfiniteInput = true)
    (sized : 1 ≤ block.frames.length ∧ block.frames.length ≤ maxFrames) :
    let next := (blockMachine detector layout decibelGain).step stream block
    ∃ notes, next.2 = [{ given := [], decided := [], notes := notes }] ∧
      Stopped maxFrames config next.1 ∧
      (Processing.Unoccupied stream.component.generatedNotes →
        notes = [] ∧ Processing.Unoccupied next.1.component.generatedNotes) := by
  let heard := block.heard (decibelGain config.inputTrimDb)
  let outcomes := blockOutcomes detector stream.detector heard
  obtain ⟨bounded, flows, kept, came, processed⟩ :=
    @process_stream stream.component maxFrames config layout block outcomes flowing sized
      (blockAudio block outcomes) rfl
  have hold : bounded.generatedNotes.panicHold = false := kept.symm ▸ awake
  have deaf : bounded.generatedNotes.outputBlocked = true ∨
      block.input.nonfiniteInput = true := kept.symm ▸ unheard
  have given : stream.component.givenFrames (blockData stream.component block outcomes) = [] :=
    Processing.givenFrames_unheard came rfl flows hold deaf
  obtain ⟨flowsOn, blocked, calm, silent⟩ := @Processing.processAudio_unheard bounded maxFrames
    config (blockData stream.component block outcomes) (blockAudio block outcomes) flows hold deaf
  rw [← processed] at flowsOn blocked calm silent
  dsimp only [blockMachine]
  rw [flowing.active]
  refine ⟨(stream.component.process (blockData stream.component block outcomes)).2.pushed.filterMap
    (Push.timed stream.elapsed), ?_, ⟨flowsOn, blocked, calm⟩, fun unoccupied => ?_⟩
  · rw [given]
    rfl
  · obtain ⟨pushes, free⟩ := silent (kept.symm ▸ unoccupied)
    refine ⟨?_, free⟩
    rw [pushes]
    rfl

/-- Once the output is blocked the detector is given nothing more. -/
theorem run_stopped {blocks : List (StreamBlock layout)} (stopped : Stopped maxFrames config stream)
    (sized : ∀ block ∈ blocks, 1 ≤ block.frames.length ∧ block.frames.length ≤ maxFrames) :
    let outcome := BlockOutcome.gather ((blockMachine detector layout decibelGain).run stream blocks).2
    outcome.given = [] ∧ outcome.decided = [] ∧
      (Processing.Unoccupied stream.component.generatedNotes → outcome.notes = []) := by
  induction blocks generalizing stream with
  | nil => exact ⟨rfl, rfl, fun _ => rfl⟩
  | cons block blocks ih =>
      obtain ⟨size, sizes⟩ := List.forall_mem_cons.mp sized
      obtain ⟨notes, emitted, after, silent⟩ := @step_unheard State layout detector decibelGain
        maxFrames config stream block stopped.flowing stopped.awake (.inl stopped.blocked) size
      obtain ⟨given, decided, quiet⟩ := ih after sizes
      rw [Transducer.run_cons, emitted]
      refine ⟨given, decided, fun unoccupied => ?_⟩
      obtain ⟨none, free⟩ := silent unoccupied
      exact List.append_eq_nil_iff.mpr ⟨none, quiet free⟩

/-- Samples that are all heard and accepted are followed by those that come later. -/
theorem heardOutcome_append {run : DetectorRun State} {start : ℕ} {first second : List ℚ}
    {middle : GeneratedNoteLedger}
    (accepted : heardLedger detector config run ledger start first = some middle) :
    heardOutcome detector config run ledger start (first ++ second) =
        .gather [heardOutcome detector config run ledger start first,
          heardOutcome detector config (detector.samples.run run first).1 middle
            (start + first.length) second] ∧
      heardLedger detector config run ledger start (first ++ second) =
        heardLedger detector config (detector.samples.run run first).1 middle
          (start + first.length) second := by
  have length := @PolyphonicPitchDetector.length_run State detector run first
  have taken := @takeTicks_append config.midiRouting config.midiChannel ledger
    ((detector.samples.run run first).2.map transitionsOf)
    ((detector.samples.run (detector.samples.run run first).1 second).2.map transitionsOf)
    start middle accepted
  rw [List.length_map, length] at taken
  unfold heardOutcome heardLedger BlockOutcome.gather
  dsimp only
  rw [Transducer.run_append]
  dsimp only
  rw [List.map_append, taken, timeline_append, decidedAt_append, length]
  simp

/-- What is taken of all samples is taken of the first ones. -/
theorem heardLedger_of_append {run : DetectorRun State} {start : ℕ} {first second : List ℚ}
    (accepted : (heardLedger detector config run ledger start (first ++ second)).isSome = true) :
    (heardLedger detector config run ledger start first).isSome = true := by
  unfold heardLedger at accepted ⊢
  rw [Transducer.run_append, List.map_append] at accepted
  exact takeTicks_prefix accepted

/-- A block whose events are all accepted leaves a stream in which blocks are taken. -/
theorem Heard.taking {after : HostStream State} {heard : List ℚ} {next : GeneratedNoteLedger}
    (leaves : Heard detector maxFrames config stream after ledger heard)
    (taking : Taking maxFrames config stream ledger)
    (accepted : heardLedger detector config stream.detector ledger stream.elapsed heard =
      some next) : Taking maxFrames config after next := by
  have ends := leaves.notes
  rw [accepted] at ends
  have same : after.component.generatedNotes = next := ends
  have base : ledger.settled = ledger := by
    rw [← taking.settled]
    rfl
  have still := takeTicks_settled base accepted
  have receptive : Receptive maxFrames next :=
    takeTicks_receptive (taking.settled ▸ taking.receptive.settled) accepted
  refine ⟨leaves.flowing, same.symm ▸ receptive, ?_, same.symm ▸ still⟩
  rw [same, ← still]
  rfl

/-- What comes of finite blocks, when no event is refused before the last sample. By induction on
the blocks. Each goes on where the one before has left the detector and the ledger. -/
theorem run_finite {blocks : List (StreamBlock layout)}
    (taking : Taking maxFrames config stream ledger)
    (sized : ∀ block ∈ blocks, 1 ≤ block.frames.length ∧ block.frames.length ≤ maxFrames)
    (finite : ∀ block ∈ blocks, block.input.nonfiniteInput = false) {heard : List ℚ}
    (whole : (blocks.flatMap fun block => block.heard (decibelGain config.inputTrimDb)) = heard)
    (accepted : (heardLedger detector config stream.detector ledger stream.elapsed
      heard.dropLast).isSome = true) :
    let run := (blockMachine detector layout decibelGain).run stream blocks
    BlockOutcome.gather run.2 =
        heardOutcome detector config stream.detector ledger stream.elapsed heard ∧
      ∀ next, heardLedger detector config stream.detector ledger stream.elapsed heard = some next →
        Taking maxFrames config run.1 next ∧
          run.1.detector = (detector.samples.run stream.detector heard).1 ∧
          run.1.elapsed = stream.elapsed + heard.length := by
  induction blocks generalizing stream ledger heard with
  | nil =>
      obtain rfl : [] = heard := whole
      refine ⟨rfl, fun next here => ?_⟩
      obtain rfl := Option.some.inj here
      exact ⟨taking, rfl, rfl⟩
  | cons block blocks ih =>
      obtain ⟨size, sizes⟩ := List.forall_mem_cons.mp sized
      obtain ⟨fine, others⟩ := List.forall_mem_cons.mp finite
      let first := block.heard (decibelGain config.inputTrimDb)
      let second := blocks.flatMap fun block => block.heard (decibelGain config.inputTrimDb)
      obtain rfl : first ++ second = heard := whole
      obtain ⟨emitted, leaves⟩ := @step_finite State layout detector decibelGain maxFrames config
        stream ledger block taking fine size
      rw [Transducer.run_cons, emitted]
      cases blocks with
      | nil =>
          have alone : first ++ second = first := List.append_nil first
          rw [alone]
          refine ⟨?_, fun next here => ⟨leaves.taking taking here, leaves.run, leaves.elapsed⟩⟩
          change BlockOutcome.mk (_ ++ []) (_ ++ []) (_ ++ []) = _
          rw [List.append_nil, List.append_nil, List.append_nil]
      | cons other rest =>
          have some_ : second ≠ [] := by
            have size := (sizes other List.mem_cons_self).1
            intro none
            have empty : other.heard (decibelGain config.inputTrimDb) = [] :=
              (List.append_eq_nil_iff.mp none).1
            rw [StreamBlock.heard, List.map_eq_nil_iff] at empty
            rw [empty] at size
            exact absurd size (by decide)
          rw [List.dropLast_append_of_ne_nil some_] at accepted
          obtain ⟨middle, here⟩ := Option.isSome_iff_exists.mp (heardLedger_of_append accepted)
          rw [(heardOutcome_append here).2, ← leaves.run, ← leaves.elapsed] at accepted
          obtain ⟨outcome, ends⟩ := ih (leaves.taking taking here) sizes others rfl accepted
          obtain ⟨gathered, ledgers⟩ := @heardOutcome_append State detector config ledger
            stream.detector stream.elapsed first second middle here
          rw [← leaves.run, ← leaves.elapsed] at gathered ledgers
          rw [gathered, ledgers]
          refine ⟨?_, fun next there => ?_⟩
          · rw [← outcome]
            simp [BlockOutcome.gather, first]
          · obtain ⟨takes, run, elapsed⟩ := ends next there
            refine ⟨takes, ?_, ?_⟩
            · rw [Transducer.run_append, run, leaves.run]
            · rw [elapsed, leaves.elapsed, List.length_append, Nat.add_assoc]

end Steps

end M3Midi
