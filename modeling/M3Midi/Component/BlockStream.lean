import M3Midi.Component.Sealing
import M3Midi.Component.DryPath
import M3Midi.Ledger.TickDelivery
import M3Midi.Detector.SampleClock

/-! # A stream in blocks

The host cuts its stream into blocks and calls the audio thread once for each, with the same
configuration and a list that takes every event. What comes of it is seen in absolute samples:
which samples the detector hears, where it decides, and which note events the host gets.
-/

namespace M3Midi

open Foundation

namespace M3Component

/-- The frames the detector loop comes to, until the output is blocked. -/
def reachedFrames (frames : Nat) (decisions : Nat → List VoiceTransition) :
    List Nat → GeneratedNoteLedger → List Nat
  | [], _ => []
  | frame :: rest, ledger =>
      let queued := queueDecision frames frame (decisions frame) ledger
      if queued.outputBlocked then [frame]
      else frame :: reachedFrames frames decisions rest queued

/-- The frames of a call whose samples are given to the detector. -/
def givenFrames (component : M3Component) (data : ProcessData) : List Nat :=
  match component.beforeCommit data, data.audio with
  | some released, some audio =>
      let checked := released.component.commitPreparedConfigIfReleased.checkInput audio
      if checked.detectorAllowed audio ∧ checked.detector.configuration.configured then
        reachedFrames data.numSamples.toNat audio.decisions (List.range data.numSamples.toNat)
          checked.generatedNotes
      else []
  | _, _ => []

end M3Component

/-- The accepted event of a push, in a block that starts at a time. -/
def Push.timed (start : ℕ) (push : Push) : Option TimedNote :=
  if push.accepted then
    some (timedNote (start + push.transition.sampleOffset) push.transition push.channel)
  else none

/-- What comes of a block, in samples of the stream. Times count from the beginning of the stream,
and not of a block, so that partitions can be compared. -/
structure BlockOutcome where
  given : List (ℕ × ℚ)
  decided : List (ℕ × List VoiceTransition)
  notes : List TimedNote

/-- What comes of blocks that follow each other. -/
def BlockOutcome.gather (outcomes : List BlockOutcome) : BlockOutcome where
  given := outcomes.flatMap BlockOutcome.given
  decided := outcomes.flatMap BlockOutcome.decided
  notes := outcomes.flatMap BlockOutcome.notes

/-- The plug-in between two blocks. The component and the detector are followed side by side, with
the samples that have gone by. -/
structure HostStream (State : Type) where
  component : M3Component
  detector : DetectorRun State
  elapsed : ℕ := 0

/-- A host's list that takes every event. -/
def acceptingEvents : EventList := some fun _ _ _ => true

section Blocks

variable {State : Type} {layout : ChannelLayout}

/-- The samples of a block, as they are given to the detector: selected, and trimmed. -/
def StreamBlock.heard (block : StreamBlock layout) (gain : ℚ) : List ℚ :=
  block.frames.map fun frame => block.input.selectedSample frame * gain

/-- What the detector would decide at each frame of a block. -/
def blockOutcomes (detector : PolyphonicPitchDetector State) (run : DetectorRun State)
    (heard : List ℚ) : ℕ → Option DetectorDecision :=
  fun frame => (detector.samples.run run heard).2.getD frame none

/-- The samples of a block, as the call sees them. -/
def blockAudio (block : StreamBlock layout) (outcomes : ℕ → Option DetectorDecision) :
    AudioBlock where
  nonfiniteInput := block.input.analyzeDetectorInput.nonfiniteInput
  selectedPeak := some block.input.analyzeDetectorInput.selectedPeak
  decisions := fun frame => transitionsOf (outcomes frame)

/-- The call for a block. -/
def blockData (component : M3Component) (block : StreamBlock layout)
    (outcomes : ℕ → Option DetectorDecision) : ProcessData where
  processMode := component.processSetup.processMode
  symbolicSampleSize := component.processSetup.symbolicSampleSize
  numSamples := block.frames.length
  outputEvents := acceptingEvents
  audio := some (blockAudio block outcomes)

/-- The plug-in takes a stream block by block. The gain is that of the input trim. Each block goes
through the dry path, the detector and the component, and brings what the host has been given. -/
def blockMachine (detector : PolyphonicPitchDetector State) (layout : ChannelLayout)
    (decibelGain : ℚ → ℚ) :
    Transducer (StreamBlock layout) (HostStream State) BlockOutcome where
  step stream block :=
    let heard := block.heard (decibelGain stream.component.activeConfig.inputTrimDb)
    let outcomes := blockOutcomes detector stream.detector heard
    let data := blockData stream.component block outcomes
    let given := stream.component.givenFrames data
    let call := (stream.component.process data).2
    ({ component := call.component
       detector := (detector.samples.run stream.detector (given.map (heard.getD · 0))).1
       elapsed := stream.elapsed + block.frames.length },
     [{ given := given.map fun frame => (stream.elapsed + frame, heard.getD frame 0)
        decided := given.filterMap fun frame =>
          (outcomes frame).map fun decision => (stream.elapsed + frame, decision.transitions)
        notes := call.pushed.filterMap (Push.timed stream.elapsed) }])

/-- A way to cut a stream into blocks of at most a number of frames. The condition is part of the
structure, so that only blocks of an allowed size are ever considered. -/
structure BlockPartition (layout : ChannelLayout) (frames : List InputFrame) (maxFrames : ℕ) where
  blocks : List (StreamBlock layout)
  whole : blocks.flatMap StreamBlock.frames = frames
  sized : ∀ block ∈ blocks, 1 ≤ block.frames.length ∧ block.frames.length ≤ maxFrames

/-- What comes of the stream when it is cut in this way. -/
def BlockPartition.outcome {frames : List InputFrame} {maxFrames : ℕ}
    (partition : BlockPartition layout frames maxFrames)
    (detector : PolyphonicPitchDetector State) (decibelGain : ℚ → ℚ)
    (stream : HostStream State) : BlockOutcome :=
  .gather ((blockMachine detector layout decibelGain).run stream partition.blocks).2

end Blocks

end M3Midi
