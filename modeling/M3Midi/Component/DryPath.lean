import Mathlib.Algebra.Order.Ring.Rat
import Mathlib.Data.BitVec
import Mathlib.Tactic.Linarith
import Mathlib.Tactic.Ring

/-! # What the detector hears of a block

Before a block reaches the detector its channels are read once: which of them carry signal
decides their gains for the whole block. A frame with signal on one side only is heard at unity
alone, and halved in a block whose other side carries signal elsewhere
(`M3Midi.StreamBlock.selectedSample_conflict`). In a block where no such frame meets the other side,
every frame is heard as if it were alone (`M3Midi.StreamBlock.selectedSample_steady`).
-/

namespace M3Midi

/-- A sample of the host; absent when it is not finite. -/
abbrev Sample := Option ℚ

/-- Does a sample count as signal? -/
def Sample.carries (sample : Sample) : Bool := sample.any (· ≠ 0)

/-- One sample of each input channel; without a right channel its sample is not read. -/
structure InputFrame where
  left : Sample
  right : Sample := some 0
  deriving DecidableEq

namespace InputFrame

/-- The sample of a channel in a frame. -/
def channel (frame : InputFrame) : ℕ → Sample
  | 0 => frame.left
  | _ => frame.right

/-- Signal on the left side only. -/
def leftOnly (frame : InputFrame) : Bool := frame.left.carries && !frame.right.carries

/-- Signal on the right side only. -/
def rightOnly (frame : InputFrame) : Bool := frame.right.carries && !frame.left.carries

end InputFrame

/-- The input of a call of `analyze_detector_input`; a null buffer is not available. The flags of a
host say which channels are silent, whatever their buffers hold. -/
structure DetectorInput where
  inputChannels : ℕ
  available : ℕ → Bool := fun _ => true
  frames : List InputFrame
  inputSilenceFlags : BitVec 64 := 0

/-- `DryPathResult`, what the caller learns about the input. -/
structure DryPathResult where
  nonfiniteInput : Bool := false
  channelsProcessed : ℕ := 0
  selectedPeak : ℚ := 0
  detectorLeftGain : ℚ := 0
  detectorRightGain : ℚ := 0
  outputSilenceFlags : BitVec 64 := 0

/-- The gains of two channels, from which of them carry signal in the block. -/
def stereoGains (leftAudible rightAudible : Bool) : ℚ × ℚ :=
  if leftAudible ∧ rightAudible then (1 / 2, 1 / 2)
  else if rightAudible then (0, 1)
  else (1, 0)

namespace DetectorInput

/-- No more than two channels are looked at. -/
def channelCount (input : DetectorInput) : ℕ := min 2 input.inputChannels

/-- Is the channel read, and not flagged silent? -/
def heard (input : DetectorInput) (channel : ℕ) : Bool :=
  input.available channel && !input.inputSilenceFlags.getLsbD channel

/-- Some sample of the channel carries signal in this block. -/
def audible (input : DetectorInput) (channel : ℕ) : Bool :=
  input.heard channel && input.frames.any fun frame => (frame.channel channel).carries

/-- Does some channel that is heard bring a sample that is not finite? -/
def nonfiniteInput (input : DetectorInput) : Bool :=
  (List.range input.channelCount).any fun channel =>
    input.heard channel && input.frames.any fun frame => (frame.channel channel).isNone

/-- The gains of a mono or a stereo input. Other inputs are not selected from. -/
def detectorGains (input : DetectorInput) : ℚ × ℚ :=
  if input.channelCount = 1 ∧ input.available 0 then (1, 0)
  else if input.channelCount = 2 ∧ input.available 0 ∧ input.available 1 then
    stereoGains (input.audible 0) (input.audible 1)
  else (0, 0)

/-- The sample the peak is taken of: silent and non-finite samples are zero. -/
def finiteSample (input : DetectorInput) (channel : ℕ) (frame : InputFrame) : ℚ :=
  if channel < input.channelCount ∧ input.heard channel then (frame.channel channel).getD 0 else 0

/-- `analyze_detector_input`: the gains, and the peak of what they select. -/
def analyzeDetectorInput (input : DetectorInput) : DryPathResult :=
  let gains := input.detectorGains
  { nonfiniteInput := input.nonfiniteInput
    channelsProcessed := ((List.range input.channelCount).filter input.available).length
    selectedPeak := input.frames.foldl (fun peak frame =>
      max peak |input.finiteSample 0 frame * gains.1 + input.finiteSample 1 frame * gains.2|) 0
    detectorLeftGain := gains.1
    detectorRightGain := gains.2 }

/-- What `process_samples` selects of a frame. It selects in finite blocks only. -/
def selectedSample (input : DetectorInput) (frame : InputFrame) : ℚ :=
  let left := if input.inputSilenceFlags.getLsbD 0 then 0 else frame.left.getD 0
  let right :=
    if input.channelCount < 2 ∨ input.inputSilenceFlags.getLsbD 1 then 0 else frame.right.getD 0
  left * input.analyzeDetectorInput.detectorLeftGain +
    right * input.analyzeDetectorInput.detectorRightGain

end DetectorInput

/-- The layouts a block may have. -/
inductive ChannelLayout
  | mono
  | stereo
  deriving DecidableEq

namespace ChannelLayout

/-- The number of channels of a layout. -/
def channels : ChannelLayout → ℕ
  | mono => 1
  | stereo => 2

/-- Are the samples of the frame finite, on the channels there are? -/
def finite (layout : ChannelLayout) (frame : InputFrame) : Bool :=
  (List.range layout.channels).all fun channel => (frame.channel channel).isSome

/-- What is heard of a frame in a block of its own. -/
def ownSample (layout : ChannelLayout) (frame : InputFrame) : ℚ :=
  ({ inputChannels := layout.channels, frames := [frame] } : DetectorInput).selectedSample frame

end ChannelLayout

/-- A block of the host. A flagged channel exists, and is silent through the block. The flags are
part of the block, and the samples of a flagged channel are not looked at. -/
structure StreamBlock (layout : ChannelLayout) where
  frames : List InputFrame
  silenceFlags : BitVec 64 := 0
  flagged : ∀ channel, silenceFlags.getLsbD channel = true →
    channel < layout.channels ∧ ∀ frame ∈ frames, frame.channel channel = some 0

namespace StreamBlock

variable {layout : ChannelLayout}

/-- The block as `process_samples` passes it on: every buffer is there. -/
def input (block : StreamBlock layout) : DetectorInput where
  inputChannels := layout.channels
  frames := block.frames
  inputSilenceFlags := block.silenceFlags

@[simp] theorem input_frames (block : StreamBlock layout) : block.input.frames = block.frames := rfl

/-- It has the channels of its layout. -/
theorem input_channelCount (block : StreamBlock layout) :
    block.input.channelCount = layout.channels := by
  cases layout <;> rfl

/-- A flagged channel carries no signal, so the flags do not change what is audible. -/
theorem input_audible (block : StreamBlock layout) (channel : ℕ) :
    block.input.audible channel =
      block.frames.any fun frame => (frame.channel channel).carries := by
  change (true && !block.silenceFlags.getLsbD channel && block.frames.any _) = _
  cases flag : block.silenceFlags.getLsbD channel with
  | false => rfl
  | true =>
      have silent := (block.flagged channel flag).2
      refine (List.any_eq_false.mpr fun frame member => ?_).symm
      rw [silent frame member]
      decide

/-- A block is not finite when some frame of it is not. -/
theorem input_nonfinite (block : StreamBlock layout) :
    block.input.nonfiniteInput = block.frames.any fun frame => !layout.finite frame := by
  rw [Bool.eq_iff_iff]
  simp only [DetectorInput.nonfiniteInput, ChannelLayout.finite, List.any_eq_true,
    Bool.and_eq_true, Bool.not_eq_true', List.all_eq_false, input_channelCount]
  constructor
  · rintro ⟨channel, exists_, -, frame, member, absent⟩
    refine ⟨frame, member, channel, exists_, ?_⟩
    rw [Option.isNone_iff_eq_none.mp absent]
    decide
  · rintro ⟨frame, member, channel, exists_, absent⟩
    have missing : frame.channel channel = none := Option.not_isSome_iff_eq_none.mp absent
    refine ⟨channel, exists_, ?_, frame, member, Option.isNone_iff_eq_none.mpr missing⟩
    change (true && !block.silenceFlags.getLsbD channel) = true
    cases flag : block.silenceFlags.getLsbD channel with
    | false => rfl
    | true =>
        have silent := (block.flagged channel flag).2 frame member
        exact absurd (silent.symm.trans missing) (by simp)

end StreamBlock

/-- A sample that is not signal counts as zero. -/
theorem Sample.getD_of_not_carries {sample : Sample} (quiet : sample.carries = false) :
    sample.getD 0 = 0 := by
  cases sample with
  | none => rfl
  | some value => simpa [Sample.carries] using quiet

/-- A sample that carries signal is not zero. -/
theorem Sample.getD_of_carries {sample : Sample} (signal : sample.carries = true) :
    sample.getD 0 ≠ 0 := by
  cases sample with
  | none => cases signal
  | some value => simpa [Sample.carries] using signal

namespace StreamBlock

/-- A flag leaves out a sample that is zero anyway. -/
theorem heard_sample {layout : ChannelLayout} {block : StreamBlock layout} {frame : InputFrame}
    (member : frame ∈ block.frames) (channel : ℕ) :
    (if block.input.inputSilenceFlags.getLsbD channel then 0 else (frame.channel channel).getD 0) =
      (frame.channel channel).getD 0 := by
  split_ifs with flag
  · rw [(block.flagged channel flag).2 frame member, Option.getD_some]
  · rfl

variable {block : StreamBlock .stereo} {frame other : InputFrame}

/-- What is selected of a frame of a stereo block. -/
theorem selectedSample_stereo (member : frame ∈ block.frames) :
    block.input.selectedSample frame =
      frame.left.getD 0 * (stereoGains (block.frames.any fun frame => frame.left.carries)
          (block.frames.any fun frame => frame.right.carries)).1 +
        frame.right.getD 0 * (stereoGains (block.frames.any fun frame => frame.left.carries)
          (block.frames.any fun frame => frame.right.carries)).2 := by
  have left : (if block.input.inputSilenceFlags.getLsbD 0 then 0 else frame.left.getD 0) =
      frame.left.getD 0 := heard_sample member 0
  have right : (if block.input.inputSilenceFlags.getLsbD 1 then 0 else frame.right.getD 0) =
      frame.right.getD 0 := heard_sample member 1
  have gains : block.input.detectorGains =
      stereoGains (block.input.audible 0) (block.input.audible 1) := rfl
  have both : ¬ block.input.channelCount < 2 := by
    rw [input_channelCount]
    decide
  simp only [DetectorInput.selectedSample, DetectorInput.analyzeDetectorInput, gains,
    input_audible, both, false_or, left, right]
  rfl

/-- What is heard of a stereo frame alone. -/
theorem ownSample_stereo (frame : InputFrame) :
    ChannelLayout.stereo.ownSample frame =
      frame.left.getD 0 * (stereoGains frame.left.carries frame.right.carries).1 +
        frame.right.getD 0 * (stereoGains frame.left.carries frame.right.carries).2 := by
  have alone := @selectedSample_stereo
    { frames := [frame], flagged := fun channel flag => by simp at flag } frame
    (List.mem_singleton_self frame)
  simp only [List.any_cons, List.any_nil, Bool.or_false] at alone
  exact alone

/-- A frame on one side only that meets no signal on the other side is heard as if alone. -/
theorem selectedSample_steady (member : frame ∈ block.frames)
    (left : frame.leftOnly = true → ∀ other ∈ block.frames, other.right.carries = false)
    (right : frame.rightOnly = true → ∀ other ∈ block.frames, other.left.carries = false) :
    block.input.selectedSample frame = ChannelLayout.stereo.ownSample frame := by
  rw [selectedSample_stereo member, ownSample_stereo]
  have leftAudible (signal : frame.left.carries = true) :
      (block.frames.any fun frame => frame.left.carries) = true :=
    List.any_eq_true.mpr ⟨frame, member, signal⟩
  have rightAudible (signal : frame.right.carries = true) :
      (block.frames.any fun frame => frame.right.carries) = true :=
    List.any_eq_true.mpr ⟨frame, member, signal⟩
  cases onLeft : frame.left.carries <;> cases onRight : frame.right.carries
  · rw [Sample.getD_of_not_carries onLeft, Sample.getD_of_not_carries onRight]
    ring
  · have none := right (by rw [InputFrame.rightOnly, onLeft, onRight]; rfl)
    have quiet : (block.frames.any fun frame => frame.left.carries) = false :=
      List.any_eq_false.mpr fun other member => by simp [none other member]
    rw [rightAudible onRight, quiet]
  · have none := left (by rw [InputFrame.leftOnly, onLeft, onRight]; rfl)
    have quiet : (block.frames.any fun frame => frame.right.carries) = false :=
      List.any_eq_false.mpr fun other member => by simp [none other member]
    rw [leftAudible onLeft, quiet]
  · rw [leftAudible onLeft, rightAudible onRight]

/-- A frame on one side only that meets signal on the other side is halved. -/
theorem selectedSample_conflict (member : frame ∈ block.frames) (meets : other ∈ block.frames)
    (conflict : frame.leftOnly = true ∧ other.right.carries = true ∨
      frame.rightOnly = true ∧ other.left.carries = true) :
    block.input.selectedSample frame ≠ ChannelLayout.stereo.ownSample frame := by
  rw [selectedSample_stereo member, ownSample_stereo]
  rcases conflict with ⟨only, opposite⟩ | ⟨only, opposite⟩
  · simp only [InputFrame.leftOnly, Bool.and_eq_true, Bool.not_eq_true'] at only
    have leftAudible : (block.frames.any fun frame => frame.left.carries) = true :=
      List.any_eq_true.mpr ⟨frame, member, only.1⟩
    have rightAudible : (block.frames.any fun frame => frame.right.carries) = true :=
      List.any_eq_true.mpr ⟨other, meets, opposite⟩
    have signal := Sample.getD_of_carries only.1
    rw [leftAudible, rightAudible, only.1, only.2, Sample.getD_of_not_carries only.2]
    intro same
    simp only [stereoGains] at same
    norm_num at same
    exact signal (by linarith)
  · simp only [InputFrame.rightOnly, Bool.and_eq_true, Bool.not_eq_true'] at only
    have leftAudible : (block.frames.any fun frame => frame.left.carries) = true :=
      List.any_eq_true.mpr ⟨other, meets, opposite⟩
    have rightAudible : (block.frames.any fun frame => frame.right.carries) = true :=
      List.any_eq_true.mpr ⟨frame, member, only.1⟩
    have signal := Sample.getD_of_carries only.1
    rw [leftAudible, rightAudible, only.1, only.2, Sample.getD_of_not_carries only.2]
    intro same
    simp only [stereoGains] at same
    norm_num at same
    exact signal (by linarith)

/-- A mono frame is heard at unity in every block. -/
theorem selectedSample_mono {block : StreamBlock .mono} (member : frame ∈ block.frames) :
    block.input.selectedSample frame = ChannelLayout.mono.ownSample frame := by
  have unity (block : StreamBlock .mono) (member : frame ∈ block.frames) :
      block.input.selectedSample frame = (frame.channel 0).getD 0 * 1 + 0 * 0 := by
    rw [← heard_sample member 0]
    rfl
  let alone : StreamBlock .mono :=
    { frames := [frame], flagged := fun channel flag => by simp at flag }
  rw [unity block member]
  exact (unity alone (List.mem_singleton_self frame)).symm

end StreamBlock

end M3Midi
