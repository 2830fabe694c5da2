import M3Midi.Component.StreamStart

/-! # Blocks of different sizes

What comes of a stream does not depend on how the host cuts it, unless the stream brings one of
three things: a sample that is not finite, an event the ledger refuses, or, within the length of
a block, a frame with signal on one side only and signal on the other side
(`M3Midi.blockPartition_invariant_iff`).
-/

namespace M3Midi

open Foundation GeneratedNoteLedger M3Component

/-- One frame has signal on one side only, and the other frame has signal on the other side. -/
def InputFrame.Crosses (frame other : InputFrame) : Prop :=
  frame.leftOnly = true ∧ other.right.carries = true ∨
    frame.rightOnly = true ∧ other.left.carries = true

/-- Successive frames that fit a block do not cross. -/
def SteadySelection (maxFrames : ℕ) (frames : List InputFrame) : Prop :=
  ∀ window, window <:+: frames → window.length ≤ maxFrames →
    ∀ frame ∈ window, ∀ other ∈ window, ¬ frame.Crosses other

section Cuts

variable {layout : ChannelLayout}

/-- A block without flags. -/
def unflagged (layout : ChannelLayout) (frames : List InputFrame) : StreamBlock layout where
  frames := frames
  flagged channel flag := by simp at flag

/-- A block for each frame. -/
def singles (layout : ChannelLayout) (frames : List InputFrame) : List (StreamBlock layout) :=
  frames.map fun frame => unflagged layout [frame]

/-- The single frames of a stream make up the stream. -/
theorem singles_whole (frames : List InputFrame) :
    (singles layout frames).flatMap StreamBlock.frames = frames := by
  rw [singles, List.flatMap_map]
  exact List.flatMap_singleton' frames

/-- They are blocks of an allowed size. -/
theorem singles_sized {maxFrames : ℕ} (some_ : 1 ≤ maxFrames) (frames : List InputFrame) :
    ∀ block ∈ singles layout frames, 1 ≤ block.frames.length ∧ block.frames.length ≤ maxFrames := by
  intro block member
  obtain ⟨frame, -, rfl⟩ := List.mem_map.mp member
  exact ⟨le_rfl, some_⟩

/-- Frame by frame, but for some frames in the middle that come in one block. -/
def BlockPartition.around {maxFrames : ℕ} (before middle after : List InputFrame)
    (size : 1 ≤ middle.length ∧ middle.length ≤ maxFrames) :
    BlockPartition layout (before ++ (middle ++ after)) maxFrames where
  blocks := singles layout before ++ unflagged layout middle :: singles layout after
  whole := by
    rw [List.flatMap_append, List.flatMap_cons, singles_whole, singles_whole]
    rfl
  sized block member := by
    have some_ := size.1.trans size.2
    rcases List.mem_append.mp member with earlier | member
    · exact singles_sized some_ before block earlier
    · rcases List.mem_cons.mp member with rfl | later
      · exact size
      · exact singles_sized some_ after block later

/-- Frame by frame throughout. -/
def BlockPartition.single {maxFrames : ℕ} (some_ : 1 ≤ maxFrames) (frames : List InputFrame) :
    BlockPartition layout frames maxFrames where
  blocks := singles layout frames
  whole := singles_whole frames
  sized := singles_sized some_ frames

/-- What is heard of frames one by one. -/
def ownHeard (layout : ChannelLayout) (gain : ℚ) (frames : List InputFrame) : List ℚ :=
  frames.map fun frame => layout.ownSample frame * gain

/-- In blocks of single frames every frame is heard on its own. -/
theorem singles_heard (gain : ℚ) (frames : List InputFrame) :
    ((singles layout frames).flatMap fun block => block.heard gain) =
      ownHeard layout gain frames := by
  rw [singles, List.flatMap_map, ownHeard, ← List.flatMap_pure_eq_map]
  rfl

/-- A block of finite frames without silence flags is finite. -/
theorem unflagged_finite {frames : List InputFrame}
    (finite : ∀ frame ∈ frames, layout.finite frame = true) :
    (unflagged layout frames).input.nonfiniteInput = false := by
  rw [StreamBlock.input_nonfinite]
  refine List.any_eq_false.mpr fun frame member => ?_
  rw [finite frame member]
  decide

theorem singles_finite {frames : List InputFrame}
    (finite : ∀ frame ∈ frames, layout.finite frame = true) :
    ∀ block ∈ singles layout frames, block.input.nonfiniteInput = false := by
  intro block member
  obtain ⟨frame, inside, rfl⟩ := List.mem_map.mp member
  refine unflagged_finite fun other single => ?_
  rw [List.mem_singleton.mp single]
  exact finite frame inside

end Cuts

/-- What is given in two stretches is given in the first and then in the second. -/
theorem BlockOutcome.given_gather_append (first second : List BlockOutcome) :
    (BlockOutcome.gather (first ++ second)).given =
      (BlockOutcome.gather first).given ++ (BlockOutcome.gather second).given :=
  List.flatMap_append

section Same

variable {layout : ChannelLayout} {first second : StreamBlock layout}

/-- The flags of a block do not change what is heard of it. -/
theorem selectedSample_congr (same : first.frames = second.frames) {frame : InputFrame}
    (member : frame ∈ first.frames) :
    first.input.selectedSample frame = second.input.selectedSample frame := by
  have also : frame ∈ second.frames := same ▸ member
  cases layout with
  | mono => rw [StreamBlock.selectedSample_mono member, StreamBlock.selectedSample_mono also]
  | stereo =>
      rw [StreamBlock.selectedSample_stereo member, StreamBlock.selectedSample_stereo also, same]

/-- The flags of a block do not change its analysis. -/
theorem analyzeDetectorInput_congr (same : first.frames = second.frames) :
    first.input.analyzeDetectorInput.nonfiniteInput =
        second.input.analyzeDetectorInput.nonfiniteInput ∧
      first.input.analyzeDetectorInput.selectedPeak =
        second.input.analyzeDetectorInput.selectedPeak := by
  have gains : first.input.detectorGains = second.input.detectorGains := by
    unfold DetectorInput.detectorGains
    rw [StreamBlock.input_audible, StreamBlock.input_audible, StreamBlock.input_audible,
      StreamBlock.input_audible, same]
    rfl
  have sample (block : StreamBlock layout) (channel : ℕ) {frame : InputFrame}
      (member : frame ∈ block.frames) : block.input.finiteSample channel frame =
        if channel < layout.channels then (frame.channel channel).getD 0 else 0 := by
    unfold DetectorInput.finiteSample
    rw [StreamBlock.input_channelCount]
    cases flag : block.silenceFlags.getLsbD channel with
    | false =>
        have heard : block.input.heard channel = true := by
          change (true && !block.silenceFlags.getLsbD channel) = true
          rw [flag]
          rfl
        simp only [heard, and_true]
    | true =>
        have muted : block.input.heard channel = false := by
          change (true && !block.silenceFlags.getLsbD channel) = false
          rw [flag]
          rfl
        have silent := (block.flagged channel flag).2 frame member
        simp [muted, silent]
  refine ⟨?_, ?_⟩
  · change first.input.nonfiniteInput = second.input.nonfiniteInput
    rw [StreamBlock.input_nonfinite, StreamBlock.input_nonfinite, same]
  · change first.frames.foldl _ 0 = second.frames.foldl _ 0
    rw [← same]
    refine List.foldl_ext _ _ 0 fun peak frame member => ?_
    have also : frame ∈ second.frames := same ▸ member
    rw [gains, sample first 0 member, sample first 1 member, sample second 0 also,
      sample second 1 also]

end Same

section Invariance

variable {State : Type} {layout : ChannelLayout} {detector : PolyphonicPitchDetector State}
  {decibelGain : ℚ → ℚ} {maxFrames : ℕ} {config : PersistentConfig} {stream : HostStream State}
  {ledger : GeneratedNoteLedger} {frames : List InputFrame}

/-- Blocks of the same frames are taken alike. -/
theorem step_congr {first second : StreamBlock layout} (same : first.frames = second.frames) :
    (blockMachine detector layout decibelGain).step stream first =
      (blockMachine detector layout decibelGain).step stream second := by
  have heard (gain : ℚ) : first.heard gain = second.heard gain := by
    rw [StreamBlock.heard, StreamBlock.heard, ← same]
    refine List.map_congr_left fun frame member => ?_
    rw [selectedSample_congr same member]
  obtain ⟨nonfinite, peak⟩ := analyzeDetectorInput_congr same
  have data (outcomes : ℕ → Option DetectorDecision) :
      blockData stream.component first outcomes = blockData stream.component second outcomes := by
    unfold blockData blockAudio
    rw [nonfinite, peak, same]
  dsimp only [blockMachine]
  rw [heard, data, same]

/-- Blocks of one frame each are taken alike, whatever their flags. -/
theorem run_congr {first second : List (StreamBlock layout)}
    (same : first.map StreamBlock.frames = second.map StreamBlock.frames) :
    (blockMachine detector layout decibelGain).run stream first =
      (blockMachine detector layout decibelGain).run stream second := by
  induction first generalizing stream second with
  | nil =>
      rw [List.map_nil, eq_comm, List.map_eq_nil_iff] at same
      rw [same]
  | cons block blocks ih =>
      cases second with
      | nil => cases same
      | cons other others =>
          obtain ⟨here, later⟩ := List.cons.inj same
          rw [Transducer.run_cons, Transducer.run_cons, step_congr here, ih later]

/-- In blocks of one frame there is one way to cut a stream. -/
theorem map_frames_of_single {blocks : List (StreamBlock layout)}
    (sized : ∀ block ∈ blocks, 1 ≤ block.frames.length ∧ block.frames.length ≤ 1) :
    blocks.map StreamBlock.frames = (blocks.flatMap StreamBlock.frames).map ([·]) := by
  induction blocks with
  | nil => rfl
  | cons block blocks ih =>
      obtain ⟨size, sizes⟩ := List.forall_mem_cons.mp sized
      obtain ⟨frame, one⟩ := List.length_eq_one_iff.mp (le_antisymm size.2 size.1)
      rw [List.map_cons, List.flatMap_cons, ih sizes, one]
      rfl

/-- When the very first sample is not finite the detector hears nothing, and nothing sounds. -/
theorem outcome_of_nonfinite {first : InputFrame} {rest : List InputFrame}
    (partition : BlockPartition layout (first :: rest) maxFrames)
    (flowing : Flowing stream.component maxFrames config)
    (awake : stream.component.generatedNotes.panicHold = false)
    (unoccupied : Processing.Unoccupied stream.component.generatedNotes)
    (nonfinite : layout.finite first = false) :
    partition.outcome detector decibelGain stream = { given := [], decided := [], notes := [] } := by
  obtain ⟨blocks, whole, sized⟩ := partition
  cases blocks with
  | nil => cases whole
  | cons block blocks =>
      obtain ⟨size, sizes⟩ := List.forall_mem_cons.mp sized
      have inside : first ∈ block.frames := by
        cases frames : block.frames with
        | nil =>
            rw [frames] at size
            exact absurd size.1 (by decide)
        | cons head tail =>
            rw [List.flatMap_cons, frames] at whole
            rw [(List.cons.inj whole).1]
            exact List.mem_cons_self
      have broken : block.input.nonfiniteInput = true := by
        rw [StreamBlock.input_nonfinite]
        exact List.any_eq_true.mpr ⟨first, inside, by rw [nonfinite]; rfl⟩
      obtain ⟨notes, emitted, after, silent⟩ := @step_unheard State layout detector decibelGain
        maxFrames config stream block flowing awake (.inr broken) size
      obtain ⟨none, free⟩ := silent unoccupied
      obtain ⟨given, decided, quiet⟩ := @run_stopped State layout detector decibelGain
        maxFrames config _ blocks after sizes
      unfold BlockPartition.outcome
      dsimp only
      rw [Transducer.run_cons, emitted, none]
      change BlockOutcome.mk _ _ _ = _
      exact congr (congr (congrArg BlockOutcome.mk given) decided) (quiet free)

/-- In a steady stream every frame is heard as if alone, however it is cut. -/
theorem heard_of_steady (partition : BlockPartition layout frames maxFrames) (gain : ℚ)
    (steady : layout = .stereo → SteadySelection maxFrames frames) :
    (partition.blocks.flatMap fun block => block.heard gain) = ownHeard layout gain frames := by
  obtain ⟨blocks, rfl, sized⟩ := partition
  have own (block : StreamBlock layout) (member : block ∈ blocks) :
      block.heard gain = ownHeard layout gain block.frames := by
    refine List.map_congr_left fun frame inside => ?_
    have selected : block.input.selectedSample frame = layout.ownSample frame := by
      cases layout with
      | mono => exact StreamBlock.selectedSample_mono inside
      | stereo =>
          have window : block.frames <:+: blocks.flatMap StreamBlock.frames := by
            obtain ⟨before, after, rfl⟩ := List.append_of_mem member
            rw [List.flatMap_append, List.flatMap_cons, ← List.append_assoc]
            exact List.infix_append _ _ _
          have apart := steady rfl block.frames window (sized block member).2 frame inside
          refine StreamBlock.selectedSample_steady inside ?_ ?_
          · intro only other meets
            exact Bool.eq_false_iff.mpr fun opposite => apart other meets (.inl ⟨only, opposite⟩)
          · intro only other meets
            exact Bool.eq_false_iff.mpr fun opposite => apart other meets (.inr ⟨only, opposite⟩)
    rw [selected]
  rw [ownHeard, List.map_flatMap]
  exact List.flatMap_congr own

/-- What comes of a stream does not depend on how it is cut. -/
def PartitionInvariant (detector : PolyphonicPitchDetector State) (layout : ChannelLayout)
    (decibelGain : ℚ → ℚ) (maxFrames : ℕ) (stream : HostStream State)
    (frames : List InputFrame) : Prop :=
  ∀ first second : BlockPartition layout frames maxFrames,
    first.outcome detector decibelGain stream = second.outcome detector decibelGain stream

/-- Streams that are cut alike at first are given alike from there on. -/
theorem given_of_prefix (before first second : List (StreamBlock layout))
    (same : BlockOutcome.gather
        ((blockMachine detector layout decibelGain).run stream (before ++ first)).2 =
      BlockOutcome.gather
        ((blockMachine detector layout decibelGain).run stream (before ++ second)).2) :
    let reached := ((blockMachine detector layout decibelGain).run stream before).1
    (BlockOutcome.gather ((blockMachine detector layout decibelGain).run reached first).2).given =
      (BlockOutcome.gather
        ((blockMachine detector layout decibelGain).run reached second).2).given := by
  have given := congrArg BlockOutcome.given same
  rw [Transducer.run_append, Transducer.run_append] at given
  dsimp only at given
  rw [BlockOutcome.given_gather_append, BlockOutcome.given_gather_append] at given
  exact List.append_cancel_left given

/-- What a run gives begins with what its first block gives. -/
theorem given_run_cons {block : StreamBlock layout} {blocks : List (StreamBlock layout)}
    {outcome : BlockOutcome}
    (emitted : ((blockMachine detector layout decibelGain).step stream block).2 = [outcome]) :
    (BlockOutcome.gather
        ((blockMachine detector layout decibelGain).run stream (block :: blocks)).2).given =
      outcome.given ++ (BlockOutcome.gather ((blockMachine detector layout decibelGain).run
        ((blockMachine detector layout decibelGain).step stream block).1 blocks).2).given := by
  rw [Transducer.run_cons, emitted]
  rfl

/-- After finite frames whose events are accepted, the stream is where it would be after their
samples. -/
theorem reached_singles (taking : Taking maxFrames config stream ledger) (some_ : 1 ≤ maxFrames)
    {before : List InputFrame} (finite : ∀ frame ∈ before, layout.finite frame = true)
    {next : GeneratedNoteLedger}
    (accepted : heardLedger detector config stream.detector ledger stream.elapsed
      (ownHeard layout (decibelGain config.inputTrimDb) before) = some next) :
    let reached := ((blockMachine detector layout decibelGain).run stream
      (singles layout before)).1
    Taking maxFrames config reached next ∧
      reached.detector = (detector.samples.run stream.detector
        (ownHeard layout (decibelGain config.inputTrimDb) before)).1 ∧
      reached.elapsed = stream.elapsed +
        (ownHeard layout (decibelGain config.inputTrimDb) before).length := by
  let heard := ownHeard layout (decibelGain config.inputTrimDb) before
  have prefix_ : (heardLedger detector config stream.detector ledger stream.elapsed
      heard.dropLast).isSome = true := by
    obtain ⟨rest, split⟩ := List.dropLast_prefix heard
    refine @heardLedger_of_append State detector config ledger stream.detector stream.elapsed _ rest ?_
    rw [split, accepted]
    rfl
  exact (run_finite taking (singles_sized some_ before) (singles_finite finite)
    (singles_heard _ before) prefix_).2 next accepted

/-- In a stream that may be cut anyhow, a frame whose events are refused, or that is followed by
a sample that is not finite, is the last or the one before. -/
theorem PartitionInvariant.next {before after : List InputFrame} {frame other : InputFrame}
    (invariant : PartitionInvariant detector layout decibelGain maxFrames stream
      (before ++ ([frame, other] ++ after)))
    (taking : Taking maxFrames config stream ledger) (two : 2 ≤ maxFrames)
    (finite : ∀ earlier ∈ before ++ [frame], layout.finite earlier = true)
    (accepted : (heardLedger detector config stream.detector ledger stream.elapsed
      (ownHeard layout (decibelGain config.inputTrimDb) before)).isSome = true) :
    layout.finite other = true ∧
      (heardLedger detector config stream.detector ledger stream.elapsed
        (ownHeard layout (decibelGain config.inputTrimDb) (before ++ [frame]))).isSome = true := by
  have some_ : 1 ≤ maxFrames := le_trans (by decide) two
  obtain ⟨next, here⟩ := Option.isSome_iff_exists.mp accepted
  obtain ⟨takes, run, elapsed⟩ := reached_singles taking some_
    (fun earlier member => finite earlier (List.mem_append_left _ member)) here
  have pair : 1 ≤ [frame, other].length ∧ [frame, other].length ≤ maxFrames :=
    ⟨Nat.le_add_left 1 1, two⟩
  have given := given_of_prefix (singles layout before)
    (unflagged layout [frame, other] :: singles layout after)
    (unflagged layout [frame] :: unflagged layout [other] :: singles layout after) (by
      have same := invariant (.around before [frame, other] after pair)
        (.single some_ (before ++ ([frame, other] ++ after)))
      have split : singles layout (before ++ ([frame, other] ++ after)) = singles layout before ++
          unflagged layout [frame] :: unflagged layout [other] :: singles layout after :=
        List.map_append
      unfold BlockPartition.outcome BlockPartition.around BlockPartition.single at same
      dsimp only at same
      rwa [split] at same)
  generalize ((blockMachine detector layout decibelGain).run stream (singles layout before)).1 =
    reached at takes run elapsed given
  obtain ⟨emitted, leaves⟩ := @step_finite State layout detector decibelGain maxFrames config
    reached next (unflagged layout [frame]) takes (unflagged_finite fun one member => finite one
      (List.mem_append_right _ member)) ⟨le_rfl, some_⟩
  have alone : (unflagged layout [frame]).heard (decibelGain config.inputTrimDb) =
      ownHeard layout (decibelGain config.inputTrimDb) [frame] := rfl
  dsimp only at given
  rw [given_run_cons emitted] at given
  have one : (heardOutcome detector config reached.detector next reached.elapsed
      ((unflagged layout [frame]).heard (decibelGain config.inputTrimDb))).given.length = 1 :=
    length_timeline _ _
  have fine : layout.finite other = true := by
    by_contra broken
    have unheard : (unflagged layout [frame, other]).input.nonfiniteInput = true := by
      rw [StreamBlock.input_nonfinite]
      refine List.any_eq_true.mpr ⟨other, List.mem_cons_of_mem _ List.mem_cons_self, ?_⟩
      rw [Bool.eq_false_iff.mpr broken]
      rfl
    obtain ⟨notes, silent, stopped, -⟩ := @step_unheard State layout detector decibelGain maxFrames
      config reached _ takes.flowing takes.receptive.awake (.inr unheard) pair
    have nothing := (@run_stopped State layout detector decibelGain maxFrames config _ _ stopped
      (singles_sized some_ after)).1
    rw [given_run_cons silent, nothing] at given
    have lengths := congrArg List.length given
    rw [List.length_append, List.length_append, one] at lengths
    change 0 + 0 = 1 + _ at lengths
    omega
  refine ⟨fine, ?_⟩
  rw [ownHeard, List.map_append]
  change (heardLedger detector config stream.detector ledger stream.elapsed
    (ownHeard layout (decibelGain config.inputTrimDb) before ++
      ownHeard layout (decibelGain config.inputTrimDb) [frame])).isSome = true
  rw [(heardOutcome_append here).2, ← run, ← elapsed, ← alone]
  by_contra refused
  have ends := leaves.notes
  rw [Option.not_isSome_iff_eq_none.mp refused] at ends
  have stopped : Stopped maxFrames config
      ((blockMachine detector layout decibelGain).step reached (unflagged layout [frame])).1 :=
    ⟨leaves.flowing, ends.1, ends.2⟩
  have nothing := (@run_stopped State layout detector decibelGain maxFrames config _ _ stopped
    (List.forall_mem_cons.mpr ⟨⟨le_rfl, some_⟩, singles_sized some_ after⟩ :
      ∀ block ∈ unflagged layout [other] :: singles layout after,
        1 ≤ block.frames.length ∧ block.frames.length ≤ maxFrames)).1
  have both : ∀ earlier ∈ [frame, other], layout.finite earlier = true := by
    intro earlier member
    rcases List.mem_cons.mp member with rfl | last
    · exact finite earlier (List.mem_append_right _ (List.mem_singleton_self earlier))
    · exact (List.mem_singleton.mp last) ▸ fine
  obtain ⟨emittedTwo, -⟩ := @step_finite State layout detector decibelGain maxFrames config
    reached next (unflagged layout [frame, other]) takes (unflagged_finite both) pair
  have two_ : (heardOutcome detector config reached.detector next reached.elapsed
      ((unflagged layout [frame, other]).heard (decibelGain config.inputTrimDb))).given.length = 2 :=
    length_timeline _ _
  rw [given_run_cons emittedTwo, nothing] at given
  have lengths := congrArg List.length given
  rw [List.length_append, List.length_append, one, two_, List.length_nil] at lengths
  omega

/-- In a stream that may be cut anyhow and starts with a finite frame, all frames are finite and
no event is refused before the last. -/
theorem PartitionInvariant.finite {before after : List InputFrame} {frame : InputFrame}
    (invariant : PartitionInvariant detector layout decibelGain maxFrames stream
      (before ++ frame :: after))
    (taking : Taking maxFrames config stream ledger) (two : 2 ≤ maxFrames)
    (finite : ∀ earlier ∈ before ++ [frame], layout.finite earlier = true)
    (accepted : (heardLedger detector config stream.detector ledger stream.elapsed
      (ownHeard layout (decibelGain config.inputTrimDb) before)).isSome = true) :
    (∀ other ∈ before ++ frame :: after, layout.finite other = true) ∧
      (heardLedger detector config stream.detector ledger stream.elapsed
        (ownHeard layout (decibelGain config.inputTrimDb)
          (before ++ frame :: after)).dropLast).isSome = true := by
  induction after generalizing before frame with
  | nil =>
      refine ⟨finite, ?_⟩
      rw [ownHeard, List.map_append, List.map_singleton, List.dropLast_concat]
      exact accepted
  | cons other after ih =>
      obtain ⟨fine, taken⟩ := PartitionInvariant.next invariant taking two finite accepted
      have moved : before ++ frame :: other :: after = before ++ [frame] ++ other :: after := by
        rw [List.append_assoc]
        rfl
      rw [moved] at invariant ⊢
      refine ih invariant ?_ taken
      intro earlier member
      rcases List.mem_append.mp member with old | last
      · exact finite earlier old
      · exact (List.mem_singleton.mp last) ▸ fine

/-- A stream that may be cut anyhow is steady. Two partitions that differ around one frame are
compared: what crosses there would be heard in two ways. -/
theorem PartitionInvariant.steady {frames : List InputFrame}
    (invariant : PartitionInvariant detector .stereo decibelGain maxFrames stream frames)
    (taking : Taking maxFrames config stream ledger)
    (gain : 0 < decibelGain config.inputTrimDb)
    (finite : ∀ frame ∈ frames, ChannelLayout.stereo.finite frame = true)
    (accepted : (heardLedger detector config stream.detector ledger stream.elapsed
      (ownHeard .stereo (decibelGain config.inputTrimDb) frames).dropLast).isSome = true) :
    SteadySelection maxFrames frames := by
  rintro window ⟨before, after, rfl⟩ short frame member other meets crosses
  have size : 1 ≤ window.length ∧ window.length ≤ maxFrames :=
    ⟨List.length_pos_of_mem member, short⟩
  have some_ := size.1.trans size.2
  rw [List.append_assoc] at invariant finite accepted
  have inner : ∀ one ∈ window, ChannelLayout.stereo.finite one = true := fun one inside =>
    finite one (List.mem_append_right _ (List.mem_append_left _ inside))
  have nonempty : ownHeard .stereo (decibelGain config.inputTrimDb) (window ++ after) ≠ [] := by
    intro empty
    have none := (List.append_eq_nil_iff.mp (List.map_eq_nil_iff.mp empty)).1
    rw [none] at member
    cases member
  have early : (heardLedger detector config stream.detector ledger stream.elapsed
      (ownHeard .stereo (decibelGain config.inputTrimDb) before)).isSome = true := by
    rw [ownHeard, List.map_append] at accepted
    change (heardLedger detector config stream.detector ledger stream.elapsed
      (ownHeard .stereo (decibelGain config.inputTrimDb) before ++
        ownHeard .stereo (decibelGain config.inputTrimDb) (window ++ after)).dropLast).isSome =
          true at accepted
    rw [List.dropLast_append_of_ne_nil nonempty] at accepted
    exact heardLedger_of_append accepted
  obtain ⟨next, here⟩ := Option.isSome_iff_exists.mp early
  obtain ⟨takes, run, elapsed⟩ := reached_singles taking some_
    (fun one inside => finite one (List.mem_append_left _ inside)) here
  have given := given_of_prefix (singles .stereo before)
    (unflagged .stereo window :: singles .stereo after) (singles .stereo (window ++ after)) (by
      have same := invariant (.around before window after size)
        (.single some_ (before ++ (window ++ after)))
      have split : singles .stereo (before ++ (window ++ after)) =
          singles .stereo before ++ singles .stereo (window ++ after) := List.map_append
      unfold BlockPartition.outcome BlockPartition.around BlockPartition.single at same
      dsimp only at same
      rwa [split] at same)
  generalize ((blockMachine detector .stereo decibelGain).run stream
    (singles .stereo before)).1 = reached at takes run elapsed given
  have late : (heardLedger detector config reached.detector next reached.elapsed
      (ownHeard .stereo (decibelGain config.inputTrimDb) (window ++ after)).dropLast).isSome =
        true := by
    rw [ownHeard, List.map_append] at accepted
    change (heardLedger detector config stream.detector ledger stream.elapsed
      (ownHeard .stereo (decibelGain config.inputTrimDb) before ++
        ownHeard .stereo (decibelGain config.inputTrimDb) (window ++ after)).dropLast).isSome =
          true at accepted
    rw [List.dropLast_append_of_ne_nil nonempty, (heardOutcome_append here).2] at accepted
    rwa [run, elapsed]
  have ones := (run_finite takes (singles_sized some_ (window ++ after))
    (singles_finite fun one inside => finite one (List.mem_append_right _ inside))
    (singles_heard (decibelGain config.inputTrimDb) (window ++ after)) late).1
  obtain ⟨emitted, -⟩ := @step_finite State .stereo detector decibelGain maxFrames config reached
    next (unflagged .stereo window) takes (unflagged_finite inner) size
  dsimp only at given ones
  rw [given_run_cons emitted, ones] at given
  change timeline _ ((unflagged .stereo window).heard (decibelGain config.inputTrimDb)) ++ _ =
    timeline _ (ownHeard .stereo (decibelGain config.inputTrimDb) (window ++ after)) at given
  rw [ownHeard, List.map_append, timeline_append] at given
  have lengths : (timeline reached.elapsed
      ((unflagged .stereo window).heard (decibelGain config.inputTrimDb))).length =
        (timeline reached.elapsed
          (ownHeard .stereo (decibelGain config.inputTrimDb) window)).length := by
    rw [length_timeline, length_timeline, StreamBlock.heard, ownHeard, List.length_map,
      List.length_map]
    rfl
  have alike := timeline_injective (List.append_inj given lengths).1
  have here := List.map_inj_left.mp alike frame member
  exact @StreamBlock.selectedSample_conflict (unflagged .stereo window) frame other member meets
    crosses (mul_right_cancel₀ gain.ne' here)

/-- The ledger takes what the detector decides on all frames but the last, one after the other. -/
def NothingRefused (detector : PolyphonicPitchDetector State) (layout : ChannelLayout) (gain : ℚ)
    (config : PersistentConfig) (stream : HostStream State) (frames : List InputFrame) : Prop :=
  (heardLedger detector config stream.detector stream.component.generatedNotes.settled
    stream.elapsed (ownHeard layout gain frames).dropLast).isSome = true

/-- **Block-size independence.** What the detector is given, where it decides and what the host
gets does not depend on how a stream is cut into blocks exactly when blocks have one frame, or
the detector hears nothing from the first frame on, or all frames are finite, none crosses
another within a block's length, and no event is refused before the last frame. -/
theorem blockPartition_invariant_iff (detector : PolyphonicPitchDetector State)
    (positive : ∀ decibels, 0 < decibelGain decibels) (ready : Ready maxFrames config stream)
    (some_ : 1 ≤ maxFrames) (frames : List InputFrame) :
    PartitionInvariant detector layout decibelGain maxFrames stream frames ↔
      maxFrames = 1 ∨ (∃ first rest, frames = first :: rest ∧ layout.finite first = false) ∨
        ((∀ frame ∈ frames, layout.finite frame = true) ∧
          (layout = .stereo → SteadySelection maxFrames frames) ∧
          NothingRefused detector layout (decibelGain config.inputTrimDb) config stream frames) := by
  constructor
  · intro invariant
    rcases Nat.eq_or_lt_of_le some_ with one | two
    · exact .inl one.symm
    · refine .inr ?_
      cases frames with
      | nil =>
          refine .inr ⟨fun frame member => absurd member List.not_mem_nil, fun _ => ?_, rfl⟩
          intro window inside _ frame member
          rw [List.infix_nil.mp inside] at member
          cases member
      | cons first rest =>
          by_cases finite : layout.finite first = true
          · have start : ∀ earlier ∈ [] ++ [first], layout.finite earlier = true := by
              intro earlier member
              exact (List.mem_singleton.mp member) ▸ finite
            obtain ⟨fine, taken⟩ := @PartitionInvariant.finite State layout detector decibelGain
              maxFrames config stream _ [] rest first invariant ready.taking two start rfl
            refine .inr ⟨fine, ?_, taken⟩
            rintro rfl
            exact PartitionInvariant.steady invariant ready.taking (positive _) fine taken
          · exact .inl ⟨first, rest, rfl, Bool.eq_false_iff.mpr finite⟩
  · rintro (one | ⟨head, rest, rfl, nonfinite⟩ | ⟨finite, steady, taken⟩) first second
    · have alike : first.blocks.map StreamBlock.frames = second.blocks.map StreamBlock.frames := by
        rw [map_frames_of_single (one ▸ first.sized), map_frames_of_single (one ▸ second.sized),
          first.whole, second.whole]
      rw [BlockPartition.outcome, BlockPartition.outcome, run_congr alike]
    · have awake := ready.taking.receptive.awake
      rw [outcome_of_nonfinite first ready.taking.flowing awake ready.unoccupied nonfinite,
        outcome_of_nonfinite second ready.taking.flowing awake ready.unoccupied nonfinite]
    · have fine (partition : BlockPartition layout frames maxFrames) :
          ∀ block ∈ partition.blocks, block.input.nonfiniteInput = false := by
        intro block member
        rw [StreamBlock.input_nonfinite]
        refine List.any_eq_false.mpr fun frame inside => ?_
        have whole : frame ∈ frames := by
          rw [← partition.whole]
          exact List.mem_flatMap.mpr ⟨block, member, inside⟩
        rw [finite frame whole]
        decide
      have outcome (partition : BlockPartition layout frames maxFrames) :=
        (run_finite ready.taking partition.sized (fine partition)
          (heard_of_steady partition (decibelGain config.inputTrimDb) steady) taken).1
      exact (outcome first).trans (outcome second).symm

end Invariance

section Examples

/-- A detector that starts a note with its first decision and ends it with the second. -/
def oneNote : PolyphonicPitchDetector ℕ where
  hear decisions _ := decisions
  makeDecision decisions :=
    ({ transitions :=
        if decisions = 0 then
          [{ sampleOffset := 0, kind := .noteOn, note := 60, velocity := 64, sequence := 0 }]
        else if decisions = 1 then
          [{ sampleOffset := 0, kind := .noteOff, note := 60, velocity := 0, sequence := 1 }]
        else []
       bounded := by split_ifs <;> decide
       valid := by split_ifs <;> decide }, decisions + 1)

/-- A plug-in that has just been started, for blocks of up to sixty-four samples. -/
def startedStream : HostStream ℕ where
  component := (((setUp (factoryCalibrationBank []) smallSetup).activate true).2.setProcessing true).2
  detector := { decisionPhase := ⟨0, Nat.zero_lt_succ 63⟩, state := 0 }

/-- The example's stream is ready for blocks. -/
theorem ready_startedStream : Ready 64 startedStream.component.activeConfig startedStream :=
  @ready_of_start ℕ (factoryCalibrationBank []) smallSetup _ _ (by decide +kernel)
    (Prod.ext (by decide +kernel) rfl) (Prod.ext (by decide +kernel) rfl) startedStream.detector

/-- The two sides of a stream sound one after the other: the detector hears half of each when
they come in one block, and each in full when they come apart. -/
theorem blockPartition_differs :
    ¬ PartitionInvariant oneNote .stereo (fun _ => 1) 64 startedStream
      [⟨some 1, some 0⟩, ⟨some 0, some 1⟩] := by
  intro invariant
  have same := congrArg BlockOutcome.given (invariant
    (.around [] [⟨some 1, some 0⟩, ⟨some 0, some 1⟩] [] ⟨by decide, by decide⟩)
    (.single (by decide) [⟨some 1, some 0⟩, ⟨some 0, some 1⟩]))
  revert same
  decide +kernel

/-- A stream that sounds on both sides throughout brings its note at the same samples, however
it is cut. -/
theorem blockPartition_invariant_note :
    PartitionInvariant oneNote .stereo (fun _ => 1) 64 startedStream
        (List.replicate 128 ⟨some 1, some 1⟩) ∧
      (BlockPartition.outcome (.single (by decide) (List.replicate 128 ⟨some 1, some 1⟩) :
          BlockPartition .stereo _ 64) oneNote (fun _ => 1) startedStream).notes =
        [{ time := 63, kind := .noteOn, note := 60, velocity := 64, channel := 1 },
          { time := 127, kind := .noteOff, note := 60, velocity := 0, channel := 1 }] := by
  refine ⟨?_, by decide +kernel⟩
  have alike : ∀ frame ∈ List.replicate 128 (⟨some 1, some 1⟩ : InputFrame),
      frame = ⟨some 1, some 1⟩ := fun frame member => List.eq_of_mem_replicate member
  refine (blockPartition_invariant_iff oneNote (fun _ => one_pos) ready_startedStream
    (by decide) _).mpr (.inr (.inr ⟨?_, fun _ => ?_, ?_⟩))
  · intro frame member
    rw [alike frame member]
    decide
  · intro window inside _ frame member other _ crosses
    rw [alike frame (inside.subset member)] at crosses
    rcases crosses with ⟨only, -⟩ | ⟨only, -⟩ <;> exact absurd only (by decide)
  · unfold NothingRefused
    decide +kernel

end Examples

end M3Midi
