import M3Midi.Component.DryPath
import M3Midi.Foundation.Buffers

/-! # The dry path

A block's input passes to its output with silent and non-finite samples as zeros, or is
muted. Both channels of a frame are read before either is written, so the output holds
what the input held at the start, also where the host lets channels share buffers or
swaps them in place (`M3Midi.DryBlock.processDryPath_exact`).
-/

namespace M3Midi

open Foundation

/-- The samples in memory, one to an address. -/
abbrev SampleMemory := ℕ → Sample

/-- The addresses of a bus's channels; a null pointer is absent. -/
abbrev ChannelBuffers := Option (ℕ → Option ℕ)

/-- The arguments of `process_dry_path`. Buffers are addresses in one memory, so that channels may
share them. -/
structure DryPathCall where
  input : ChannelBuffers
  inputChannels : ℕ
  output : ChannelBuffers
  outputChannels : ℕ
  frames : ℕ
  passthrough : Bool
  inputSilenceFlags : BitVec 64 := 0

/-- The loops of `process_dry_path` in the middle of a block. -/
structure DryPathProgress where
  memory : SampleMemory
  nonzeroOutput : ℕ → Bool := fun _ => false
  nonfiniteInput : Bool := false

namespace DryPathCall

variable (call : DryPathCall)

/-- The buffer of an input channel. -/
def inputBuffer (channel : ℕ) : Option ℕ := call.input.bind fun buffers => buffers channel

/-- The buffer of an output channel. -/
def outputBuffer (channel : ℕ) : Option ℕ := call.output.bind fun buffers => buffers channel

/-- The sample of an input channel; one without a buffer is never used. -/
def inputSample (memory : SampleMemory) (channel frame : ℕ) : Sample :=
  match call.inputBuffer channel with
  | none => some 0
  | some base => memory (base + frame)

/-- The block as `analyze_detector_input` reads it. -/
def detectorInput (memory : SampleMemory) : DetectorInput where
  inputChannels := call.inputChannels
  available := fun channel => (call.inputBuffer channel).isSome
  frames := (List.range call.frames).map fun frame =>
    { left := call.inputSample memory 0 frame, right := call.inputSample memory 1 frame }
  inputSilenceFlags := call.inputSilenceFlags

/-- Only the first two channels that both sides have are copied. -/
def copiedChannels : ℕ := min 2 (min call.inputChannels call.outputChannels)

/-- Does the channel have a buffer on both sides? -/
def available (channel : ℕ) : Bool :=
  (call.inputBuffer channel).isSome && (call.outputBuffer channel).isSome

/-- The sample of a frame, before it is checked: zero on a silent channel. -/
def readSample (memory : SampleMemory) (frame channel : ℕ) : Sample :=
  if call.inputSilenceFlags.getLsbD channel then some 0 else call.inputSample memory channel frame

/-- The write loop's body for one channel of a frame. The value is that of the input before the
frame was written, whatever buffers are shared. -/
def writeSample (frame : ℕ) (samples : ℕ → ℚ) (progress : DryPathProgress) (channel : ℕ) :
    DryPathProgress :=
  match call.outputBuffer channel with
  | none => progress
  | some base =>
      if call.available channel then
        { progress with
          memory := Function.update progress.memory (base + frame)
            (some (if call.passthrough then samples channel else 0))
          nonzeroOutput := Function.update progress.nonzeroOutput channel
            (progress.nonzeroOutput channel || (call.passthrough && samples channel ≠ 0)) }
      else progress

/-- One frame: every channel is read and checked before any is written. -/
def copyFrame (progress : DryPathProgress) (frame : ℕ) : DryPathProgress :=
  let channels := List.range call.copiedChannels
  let read := call.readSample progress.memory frame
  channels.foldl (call.writeSample frame fun channel => (read channel).getD 0)
    { progress with
      nonfiniteInput := progress.nonfiniteInput ||
        channels.any fun channel => call.available channel && (read channel).isNone }

/-- The block's samples and what `process_dry_path` reports of them. The loops go frame by frame,
and read all channels of a frame before they write any. -/
def processDryPath (memory : SampleMemory) : DryPathResult × SampleMemory :=
  if call.input.isNone then ({}, memory)
  else
    let analysis := (call.detectorInput memory).analyzeDetectorInput
    if call.output.isNone then (analysis, memory)
    else
      let channels := List.range call.copiedChannels
      let progress := (List.range call.frames).foldl call.copyFrame
        { memory, nonfiniteInput := analysis.nonfiniteInput }
      ({ analysis with
        nonfiniteInput := progress.nonfiniteInput
        channelsProcessed := (channels.filter call.available).length
        outputSilenceFlags := channels.foldl (fun flags channel =>
          if call.available channel && !progress.nonzeroOutput channel then
            flags ||| BitVec.twoPow 64 channel
          else flags) 0 },
        progress.memory)

end DryPathCall

/-- A bus of a block (`AudioBusBuffers`). -/
structure AudioBus where
  numChannels : Int
  silenceFlags : BitVec 64 := 0
  channelBuffers : ChannelBuffers

/-- The buses of a block; the first bus is absent when the host passes none. -/
structure BlockBuses where
  numInputs : Int := 1
  numOutputs : Int := 1
  inputs : Option AudioBus
  outputs : Option AudioBus

/-- Are the pointers of two channels there and different? -/
def distinctPointers (first second : Option ℕ) : Bool :=
  first.isSome && second.isSome && first ≠ second

/-- The layout check of `process_samples`. There is one bus on each side, mono on both or stereo on
both, with a buffer for each channel. -/
def validLayout (buses : BlockBuses) : Bool :=
  match buses.inputs, buses.outputs with
  | some input, some output =>
      decide (buses.numInputs = 1) && decide (buses.numOutputs = 1) &&
        (decide (input.numChannels = 1) || decide (input.numChannels = 2)) &&
        decide (output.numChannels = input.numChannels) &&
        decide (input.silenceFlags &&& ~~~(if input.numChannels = 1 then 1 else 3) = 0) &&
        match input.channelBuffers, output.channelBuffers with
        | some inputs, some outputs =>
            (inputs 0).isSome && (outputs 0).isSome &&
              (input.numChannels ≠ 2 || distinctPointers (inputs 0) (inputs 1) &&
                distinctPointers (outputs 0) (outputs 1))
        | _, _ => false
  | _, _ => false

namespace BlockBuses

variable (buses : BlockBuses)

/-- The call `process_samples` makes for the buses. -/
def dryPathCall (frames : ℕ) (passthrough : Bool) : DryPathCall where
  input := buses.inputs.bind (·.channelBuffers)
  inputChannels := (buses.inputs.elim 0 (·.numChannels)).toNat
  output := buses.outputs.bind (·.channelBuffers)
  outputChannels := (buses.inputs.elim 0 (·.numChannels)).toNat
  frames := frames
  passthrough := passthrough
  inputSilenceFlags := buses.inputs.elim 0 (·.silenceFlags)

end BlockBuses

namespace DryPathCall

variable (call : DryPathCall)

/-- The buffers of the channels that are copied. -/
def channelBases : List ℕ :=
  (List.range call.copiedChannels).filterMap call.inputBuffer ++
    (List.range call.copiedChannels).filterMap call.outputBuffer

/-- What passes to the output: the sample, or zero where it is silent or not finite, or
the block is muted. -/
def dryValue (channel : ℕ) (sample : Sample) : Sample :=
  some (if call.passthrough ∧ call.inputSilenceFlags.getLsbD channel = false then sample.getD 0
    else 0)

/-- The sample that an output channel has in memory. -/
def outputSample (memory : SampleMemory) (channel frame : ℕ) : Option Sample :=
  (call.outputBuffer channel).map fun base => memory (base + frame)

/-- Every channel that is copied has buffers, and no two write to one. -/
structure Connected : Prop where
  channels : call.copiedChannels = call.inputChannels
  buffers : ∀ channel < call.copiedChannels, ∃ source target,
    call.inputBuffer channel = some source ∧ call.outputBuffer channel = some target
  distinct : ∀ first < call.copiedChannels, ∀ second < call.copiedChannels,
    call.outputBuffer first = call.outputBuffer second → first = second

/-- The lane of a channel. -/
def lane (channel : ℕ) : Lane Sample where
  source := (call.inputBuffer channel).getD 0
  target := (call.outputBuffer channel).getD 0
  convert := call.dryValue channel

/-- The lanes of the channels that are copied. -/
def lanes : List (Lane Sample) := (List.range call.copiedChannels).map call.lane

end DryPathCall

/-- Two pointers are distinct only if neither is null. -/
theorem distinctPointers_iff {first second : Option ℕ} :
    distinctPointers first second = true ↔
      ∃ left right, first = some left ∧ second = some right ∧ left ≠ right := by
  cases first <;> cases second <;> simp [distinctPointers]

/-- The layout check admits calls whose channels are connected. -/
theorem connected_of_validLayout {buses : BlockBuses} (layout : validLayout buses = true)
    (frames : ℕ) (passthrough : Bool) : (buses.dryPathCall frames passthrough).Connected := by
  unfold validLayout at layout
  split at layout
  · rename_i input output inputs outputs
    simp only [Bool.and_eq_true, Bool.or_eq_true, decide_eq_true_eq] at layout
    obtain ⟨⟨⟨⟨-, count⟩, -⟩, -⟩, pointers⟩ := layout
    split at pointers
    · rename_i inputBuffers outputBuffers inputPointers outputPointers
      simp only [Bool.and_eq_true, Bool.or_eq_true, decide_eq_true_eq] at pointers
      obtain ⟨⟨firstInput, firstOutput⟩, second⟩ := pointers
      obtain ⟨source, sourceFound⟩ := Option.isSome_iff_exists.mp firstInput
      obtain ⟨target, targetFound⟩ := Option.isSome_iff_exists.mp firstOutput
      have inputBuffer (channel : ℕ) :
          (buses.dryPathCall frames passthrough).inputBuffer channel = inputBuffers channel := by
        simp [BlockBuses.dryPathCall, DryPathCall.inputBuffer, inputs, inputPointers]
      have outputBuffer (channel : ℕ) :
          (buses.dryPathCall frames passthrough).outputBuffer channel = outputBuffers channel := by
        simp [BlockBuses.dryPathCall, DryPathCall.outputBuffer, outputs, outputPointers]
      have channels : (buses.dryPathCall frames passthrough).inputChannels =
          input.numChannels.toNat := by
        simp [BlockBuses.dryPathCall, inputs]
      have copied : (buses.dryPathCall frames passthrough).copiedChannels =
          input.numChannels.toNat := by
        have both : (buses.dryPathCall frames passthrough).outputChannels =
            input.numChannels.toNat := channels
        rw [DryPathCall.copiedChannels, channels, both]
        omega
      rcases count with mono | stereo
      · refine ⟨copied.trans channels.symm, fun channel within => ?_,
          fun first firstWithin second secondWithin _ => by omega⟩
        obtain rfl : channel = 0 := by omega
        exact ⟨source, target, (inputBuffer 0).trans sourceFound,
          (outputBuffer 0).trans targetFound⟩
      · have pair := second.resolve_left (by simp [stereo])
        obtain ⟨_, rightSource, _, rightFound, -⟩ := distinctPointers_iff.mp pair.1
        obtain ⟨_, rightTarget, leftKnown, rightKnown, apart⟩ := distinctPointers_iff.mp pair.2
        refine ⟨copied.trans channels.symm, fun channel within => ?_,
          fun first firstWithin second secondWithin same => ?_⟩
        · obtain rfl | rfl : channel = 0 ∨ channel = 1 := by omega
          · exact ⟨source, target, (inputBuffer 0).trans sourceFound,
              (outputBuffer 0).trans targetFound⟩
          · exact ⟨rightSource, rightTarget, (inputBuffer 1).trans rightFound,
              (outputBuffer 1).trans rightKnown⟩
        · rw [outputBuffer, outputBuffer] at same
          have unequal : outputBuffers 0 ≠ outputBuffers 1 := by
            rw [leftKnown, rightKnown]
            exact fun equal => apart (Option.some.inj equal)
          obtain rfl | rfl : first = 0 ∨ first = 1 := by omega
          · obtain rfl | rfl : second = 0 ∨ second = 1 := by omega
            · rfl
            · exact absurd same unequal
          · obtain rfl | rfl : second = 0 ∨ second = 1 := by omega
            · exact absurd same.symm unequal
            · rfl
    · exact nomatch pointers
  · exact nomatch layout

namespace DryPathCall

variable {call : DryPathCall}

/-- The value the write loop stores is the channel's dry value. -/
theorem dryValue_readSample (memory : SampleMemory) (frame channel : ℕ) :
    some (if call.passthrough then (call.readSample memory frame channel).getD 0 else 0) =
      call.dryValue channel (call.inputSample memory channel frame) := by
  unfold dryValue readSample
  cases call.passthrough <;> cases call.inputSilenceFlags.getLsbD channel <;> simp

/-- The copy notes a sample as audible exactly if a value other than zero is written for it. -/
theorem dryValue_ne_zero (memory : SampleMemory) (frame channel : ℕ) :
    (call.passthrough && decide ((call.readSample memory frame channel).getD 0 ≠ 0)) = true ↔
      call.dryValue channel (call.inputSample memory channel frame) ≠ some 0 := by
  rw [← dryValue_readSample]
  cases call.passthrough <;> simp

section Connected

variable (connected : call.Connected)
include connected

/-- On a connected call, every copied channel is available. -/
theorem available_of_connected {channel : ℕ} (within : channel < call.copiedChannels) :
    call.available channel = true := by
  obtain ⟨source, target, input, output⟩ := connected.buffers channel within
  simp [available, input, output]

/-- The lane of a copied channel reads its input and writes its output. -/
theorem lane_eq {channel : ℕ} (within : channel < call.copiedChannels) :
    call.inputBuffer channel = some (call.lane channel).source ∧
      call.outputBuffer channel = some (call.lane channel).target := by
  obtain ⟨source, target, input, output⟩ := connected.buffers channel within
  simp [lane, input, output]

/-- The sample of a copied channel is read at the source of its lane. -/
theorem inputSample_lane {channel : ℕ} (within : channel < call.copiedChannels)
    (memory : SampleMemory) (frame : ℕ) :
    call.inputSample memory channel frame = memory ((call.lane channel).source + frame) := by
  rw [inputSample, (lane_eq connected within).1]

/-- What the write loop of a frame stores, and which channels it finds not silent. -/
theorem writeSamples (held : SampleMemory) (frame : ℕ) {channels : List ℕ}
    (within : ∀ channel ∈ channels, channel < call.copiedChannels) (progress : DryPathProgress) :
    (channels.foldl (call.writeSample frame fun channel =>
        (call.readSample held frame channel).getD 0) progress).memory =
      storeColumn held frame (channels.map call.lane) progress.memory ∧
    ∀ channel, (channels.foldl (call.writeSample frame fun channel =>
        (call.readSample held frame channel).getD 0) progress).nonzeroOutput channel = true ↔
      progress.nonzeroOutput channel = true ∨ (channel ∈ channels ∧
        call.dryValue channel (call.inputSample held channel frame) ≠ some 0) := by
  induction channels generalizing progress with
  | nil => exact ⟨rfl, fun channel => by simp⟩
  | cons first rest ih =>
      obtain ⟨here, others⟩ := List.forall_mem_cons.mp within
      obtain ⟨memory, nonzero⟩ := ih others (call.writeSample frame
        (fun channel => (call.readSample held frame channel).getD 0) progress first)
      have written : call.writeSample frame
          (fun channel => (call.readSample held frame channel).getD 0) progress first =
          { progress with
            memory := Function.update progress.memory ((call.lane first).target + frame)
              ((call.lane first).convert (held ((call.lane first).source + frame)))
            nonzeroOutput := Function.update progress.nonzeroOutput first
              (progress.nonzeroOutput first || (call.passthrough &&
                decide ((call.readSample held frame first).getD 0 ≠ 0))) } := by
        unfold writeSample
        rw [(lane_eq connected here).2]
        dsimp only
        rw [if_pos (available_of_connected connected here), dryValue_readSample,
          inputSample_lane connected here]
        rfl
      rw [List.foldl_cons]
      refine ⟨?_, fun channel => ?_⟩
      · rw [memory, written]
        rfl
      · rw [nonzero, written]
        dsimp only
        by_cases same : channel = first
        · subst same
          rw [Function.update_self, Bool.or_eq_true, dryValue_ne_zero, List.mem_cons]
          tauto
        · rw [Function.update_of_ne same, List.mem_cons]
          tauto

/-- A frame is one step of all lanes. -/
theorem copyFrame_spec (progress : DryPathProgress) (frame : ℕ) :
    (call.copyFrame progress frame).memory = passColumn call.lanes progress.memory frame ∧
    ∀ channel < call.copiedChannels,
      ((call.copyFrame progress frame).nonzeroOutput channel = true ↔
        progress.nonzeroOutput channel = true ∨
          call.dryValue channel (call.inputSample progress.memory channel frame) ≠ some 0) := by
  obtain ⟨memory, nonzero⟩ := writeSamples connected progress.memory frame
    (fun channel member => List.mem_range.mp member)
    { progress with
      nonfiniteInput := progress.nonfiniteInput ||
        (List.range call.copiedChannels).any fun channel => call.available channel &&
          (call.readSample progress.memory frame channel).isNone }
  refine ⟨memory, fun channel within => (nonzero channel).trans ?_⟩
  rw [List.mem_range]
  tauto

/-- No two lanes write to the same buffer. -/
theorem lanes_target_nodup : (call.lanes.map (·.target)).Nodup := by
  rw [lanes, List.map_map]
  refine List.Nodup.map_on (fun first inFirst second inSecond same => ?_) List.nodup_range
  rw [List.mem_range] at inFirst inSecond
  refine connected.distinct first inFirst second inSecond ?_
  rw [(lane_eq connected inFirst).2, (lane_eq connected inSecond).2]
  exact congrArg some same

/-- The lanes use the buffers of the channels. -/
theorem laneBuffers_subset : ∀ base ∈ laneBuffers call.lanes, base ∈ call.channelBases := by
  intro base member
  rcases List.mem_append.mp member with source | target
  · obtain ⟨lane, inLanes, rfl⟩ := List.mem_map.mp source
    obtain ⟨channel, inRange, rfl⟩ := List.mem_map.mp inLanes
    have known := (lane_eq connected (List.mem_range.mp inRange)).1
    exact List.mem_append_left _ (List.mem_filterMap.mpr ⟨channel, inRange, known⟩)
  · obtain ⟨lane, inLanes, rfl⟩ := List.mem_map.mp target
    obtain ⟨channel, inRange, rfl⟩ := List.mem_map.mp inLanes
    have known := (lane_eq connected (List.mem_range.mp inRange)).2
    exact List.mem_append_right _ (List.mem_filterMap.mpr ⟨channel, inRange, known⟩)

/-- If the channels' buffers are whole, those of the lanes are. -/
theorem wholeLanes (whole : WholeBuffers call.frames call.channelBases) :
    WholeBuffers call.frames (laneBuffers call.lanes) := by
  intro first inFirst second inSecond
  exact whole first (laneBuffers_subset connected first inFirst) second
    (laneBuffers_subset connected second inSecond)

/-- After some frames the memory is a pass of the lanes, and a channel is found not
silent exactly when one of these frames passed something else than zero. -/
theorem copyFrames_spec (whole : WholeBuffers call.frames call.channelBases)
    (start : DryPathProgress) (quiet : ∀ channel, start.nonzeroOutput channel = false) {done : ℕ}
    (within : done ≤ call.frames) :
    ((List.range done).foldl call.copyFrame start).memory = pass call.lanes start.memory done ∧
    ∀ channel < call.copiedChannels,
      (((List.range done).foldl call.copyFrame start).nonzeroOutput channel = true ↔
        ∃ frame < done,
          call.dryValue channel (call.inputSample start.memory channel frame) ≠ some 0) := by
  induction done with
  | zero => exact ⟨rfl, fun channel _ => by simp [quiet]⟩
  | succ done ih =>
      obtain ⟨memory, nonzero⟩ := ih (by omega)
      rw [List.range_succ, List.foldl_append, List.foldl_cons, List.foldl_nil]
      obtain ⟨stored, found⟩ := copyFrame_spec connected
        ((List.range done).foldl call.copyFrame start) done
      refine ⟨by rw [stored, memory, pass_succ], fun channel copied => ?_⟩
      have inLanes : call.lane channel ∈ call.lanes :=
        List.mem_map_of_mem (List.mem_range.mpr copied)
      rw [found channel copied, nonzero channel copied, inputSample_lane connected copied, memory,
        pass_source (wholeLanes connected whole) start.memory le_rfl (by omega) inLanes,
        ← inputSample_lane connected copied start.memory done]
      constructor
      · rintro (⟨frame, before, shown⟩ | shown)
        · exact ⟨frame, by omega, shown⟩
        · exact ⟨done, by omega, shown⟩
      · rintro ⟨frame, before, shown⟩
        rcases Nat.lt_succ_iff_lt_or_eq.mp before with earlier | rfl
        · exact .inl ⟨frame, earlier, shown⟩
        · exact .inr shown

end Connected

/-- The silence flags of the output: one bit for each copied channel that stayed zero. -/
theorem getLsbD_silenceFlags (silent : ℕ → Bool) {count : ℕ} (few : count ≤ 64) (channel : ℕ) :
    ((List.range count).foldl (fun flags channel =>
      if silent channel then flags ||| BitVec.twoPow 64 channel else flags) (0 : BitVec 64)).getLsbD channel =
      (decide (channel < count) && silent channel) := by
  induction count with
  | zero => simp
  | succ count ih =>
      have earlier := ih (by omega)
      have inside : count < 64 := by omega
      rw [List.range_succ, List.foldl_append, List.foldl_cons, List.foldl_nil]
      revert earlier
      generalize List.foldl _ (0 : BitVec 64) (List.range count) = flags
      intro earlier
      by_cases same : channel = count
      · subst same
        have unset : flags.getLsbD channel = false := by simpa using earlier
        cases quiet : silent channel with
        | false => simpa using unset
        | true => simp [inside]
      · have order : channel < count + 1 ↔ channel < count := by omega
        cases quiet : silent count <;>
          simp [earlier, BitVec.getLsbD_or, BitVec.getLsbD_twoPow, order, Ne.symm same]

end DryPathCall

/-- A block the layout check admits, whose buffers are the same one or apart. Buffers that overlap
only in part are excluded. -/
structure DryBlock where
  buses : BlockBuses
  frames : ℕ
  passthrough : Bool
  memory : SampleMemory
  layout : validLayout buses = true
  whole : WholeBuffers frames (buses.dryPathCall frames passthrough).channelBases

namespace DryBlock

variable (block : DryBlock)

/-- The copy of a block, as a call. -/
def call : DryPathCall := block.buses.dryPathCall block.frames block.passthrough

/-- What the host reads of an output channel after the call. -/
def output (channel frame : ℕ) : Option Sample :=
  block.call.outputSample (block.call.processDryPath block.memory).2 channel frame

/-- The silence flag of an output channel after the block. -/
def outputSilent (channel : ℕ) : Bool :=
  (block.call.processDryPath block.memory).1.outputSilenceFlags.getLsbD channel

/-- Two blocks bring the same samples, whatever their buffers. -/
structure SameInput (other : DryBlock) : Prop where
  channels : other.call.inputChannels = block.call.inputChannels
  frames : other.frames = block.frames
  passthrough : other.passthrough = block.passthrough
  silence : other.call.inputSilenceFlags = block.call.inputSilenceFlags
  samples : ∀ channel < block.call.inputChannels, ∀ frame < block.frames,
    other.call.inputSample other.memory channel frame =
      block.call.inputSample block.memory channel frame

/-- The call of a block is connected, since the layout has been checked before. -/
theorem connected : block.call.Connected :=
  connected_of_validLayout block.layout block.frames block.passthrough

/-- A block's call runs both loops to their end. -/
theorem processDryPath_eq :
    block.call.processDryPath block.memory =
      (let analysis := (block.call.detectorInput block.memory).analyzeDetectorInput
       let progress := (List.range block.frames).foldl block.call.copyFrame
        { memory := block.memory, nonfiniteInput := analysis.nonfiniteInput }
       ({ analysis with
          nonfiniteInput := progress.nonfiniteInput
          channelsProcessed :=
            ((List.range block.call.copiedChannels).filter block.call.available).length
          outputSilenceFlags := (List.range block.call.copiedChannels).foldl (fun flags channel =>
            if block.call.available channel && !progress.nonzeroOutput channel then
              flags ||| BitVec.twoPow 64 channel
            else flags) 0 },
        progress.memory)) := by
  have layout := block.layout
  unfold validLayout at layout
  have passed : block.call.input.isNone = false ∧ block.call.output.isNone = false := by
    split at layout
    · rename_i input output inputs outputs
      cases inputBuffers : input.channelBuffers with
      | none => simp [inputBuffers] at layout
      | some first =>
          cases outputBuffers : output.channelBuffers with
          | none => simp [inputBuffers, outputBuffers] at layout
          | some second =>
              simp [call, BlockBuses.dryPathCall, inputs, outputs, inputBuffers, outputBuffers]
    · exact nomatch layout
  unfold DryPathCall.processDryPath
  rw [if_neg (by simp [passed.1])]
  dsimp only
  rw [if_neg (by simp [passed.2])]
  rfl

/-- A block copies no more channels than there are bits for the silence flags. -/
theorem copiedChannels_le : block.call.copiedChannels ≤ 64 := by
  have few : block.call.copiedChannels ≤ 2 := Nat.min_le_left _ _
  omega

section Channel

variable {channel : ℕ} (within : channel < block.call.inputChannels)
include within

/-- Each output channel holds the dry values of what its input held at the start. -/
theorem output_eq {frame : ℕ} (inside : frame < block.frames) :
    block.output channel frame =
      some (block.call.dryValue channel (block.call.inputSample block.memory channel frame)) := by
  have connected := block.connected
  have copied : channel < block.call.copiedChannels := connected.channels.symm ▸ within
  have inLanes : block.call.lane channel ∈ block.call.lanes :=
    List.mem_map_of_mem (List.mem_range.mpr copied)
  have run := (DryPathCall.copyFrames_spec connected block.whole
    { memory := block.memory
      nonfiniteInput := (block.call.detectorInput block.memory).analyzeDetectorInput.nonfiniteInput }
    (fun _ => rfl) (le_refl block.frames)).1
  rw [output, processDryPath_eq, DryPathCall.outputSample,
    (DryPathCall.lane_eq connected copied).2, Option.map_some]
  dsimp only
  rw [run, pass_target (DryPathCall.wholeLanes connected block.whole)
      (DryPathCall.lanes_target_nodup connected) block.memory (le_refl block.frames) inLanes inside,
    DryPathCall.inputSample_lane connected copied]
  rfl

/-- A copied channel is flagged silent exactly when all its dry values are zero. -/
theorem outputSilent_iff :
    block.outputSilent channel = true ↔ ∀ frame < block.frames,
      block.call.dryValue channel (block.call.inputSample block.memory channel frame) = some 0 := by
  have connected := block.connected
  have copied : channel < block.call.copiedChannels := connected.channels.symm ▸ within
  have run := (DryPathCall.copyFrames_spec connected block.whole
    { memory := block.memory
      nonfiniteInput := (block.call.detectorInput block.memory).analyzeDetectorInput.nonfiniteInput }
    (fun _ => rfl) (le_refl block.frames)).2 channel copied
  rw [outputSilent, processDryPath_eq]
  dsimp only
  rw [DryPathCall.getLsbD_silenceFlags _ block.copiedChannels_le,
    DryPathCall.available_of_connected connected copied, Bool.true_and, Bool.and_eq_true,
    decide_eq_true_eq, and_iff_right copied, Bool.not_eq_true', ← Bool.not_eq_true, run]
  simp only [not_exists, not_and, not_not]

end Channel

/-- The output holds the input's dry values whatever buffers the channels share, a channel
is flagged silent exactly when its output is zero, and the buffers do not matter. -/
theorem processDryPath_exact :
    (∀ channel < block.call.inputChannels,
      (∀ frame < block.frames, block.output channel frame =
        some (block.call.dryValue channel (block.call.inputSample block.memory channel frame))) ∧
      (block.outputSilent channel = true ↔
        ∀ frame < block.frames, block.output channel frame = some (some 0))) ∧
    (∀ channel, block.call.inputChannels ≤ channel → block.outputSilent channel = false) ∧
    ∀ other : DryBlock, block.SameInput other → ∀ channel < block.call.inputChannels,
      (∀ frame < block.frames, other.output channel frame = block.output channel frame) ∧
      other.outputSilent channel = block.outputSilent channel := by
  refine ⟨fun channel within => ⟨fun frame inside => block.output_eq within inside, ?_⟩,
    fun channel beyond => ?_, fun other same channel within => ?_⟩
  · rw [block.outputSilent_iff within]
    refine forall₂_congr fun frame inside => ?_
    rw [block.output_eq within inside, Option.some.injEq]
  · rw [outputSilent, processDryPath_eq]
    dsimp only
    rw [DryPathCall.getLsbD_silenceFlags _ block.copiedChannels_le]
    have uncopied : ¬channel < block.call.copiedChannels := by
      rw [block.connected.channels]
      omega
    simp [uncopied]
  · have otherWithin : channel < other.call.inputChannels := same.channels.symm ▸ within
    have values {frame : ℕ} (inside : frame < block.frames) :
        other.call.dryValue channel (other.call.inputSample other.memory channel frame) =
          block.call.dryValue channel (block.call.inputSample block.memory channel frame) := by
      have passthrough : other.call.passthrough = block.call.passthrough := same.passthrough
      rw [same.samples channel within frame inside, DryPathCall.dryValue, DryPathCall.dryValue,
        same.silence, passthrough]
    refine ⟨fun frame inside => ?_, ?_⟩
    · rw [block.output_eq within inside,
        other.output_eq otherWithin (same.frames.symm ▸ inside), values inside]
    · rw [Bool.eq_iff_iff, block.outputSilent_iff within, other.outputSilent_iff otherWithin,
        same.frames]
      refine forall₂_congr fun frame inside => ?_
      rw [values inside]

/-- Two channels of four samples that swap their buffers in place. -/
def swappedBuses : BlockBuses where
  inputs := some { numChannels := 2, channelBuffers := some fun channel => some (4 * channel) }
  outputs := some { numChannels := 2, channelBuffers := some fun channel =>
    if channel = 0 then some 4 else some 0 }

/-- The layout with swapped channels is valid. -/
theorem swapped_layout : validLayout swappedBuses = true := by
  decide

/-- Its buffers are whole: they are shared as wholes or not at all. -/
theorem swapped_whole (passthrough : Bool) :
    WholeBuffers 4 (swappedBuses.dryPathCall 4 passthrough).channelBases := by
  cases passthrough <;> unfold WholeBuffers Apart <;> decide

/-- The block in which each channel is written where the other one is read. -/
def swapped (samples : List Sample) (passthrough : Bool) : DryBlock where
  buses := swappedBuses
  frames := 4
  passthrough := passthrough
  memory := fun address => samples.getD address none
  layout := swapped_layout
  whole := swapped_whole passthrough

example : (List.range 4).map ((swapped [some 1, none, some 2, some 3, some 0, none, some 0, some 0]
    true).output 0) = [some (some 1), some (some 0), some (some 2), some (some 3)] := by
  decide +kernel

end DryBlock

end M3Midi
