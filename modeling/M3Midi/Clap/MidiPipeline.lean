import M3Midi.Ledger.GeneratedNoteLedger
import Mathlib.Data.BitVec

/-! # The MIDI pipeline of the CLAP adapter

The pipeline merges the notes of the ledger into the host's own MIDI events. Before a
generated event it passes on the input events that are due; an input event that is
malformed is left out. A push the host refuses blocks the output and puts the channels
of the route in a mask; a later call silences them, once all releases are accepted.

The ledger pushes through the pipeline. What a refused push reports to the ledger is
what the ledger does for it next (`M3Midi.GeneratedNoteLedger.enterBlocked_idem`), so the
sink is a function of the pushes before it, and the pipeline's part of the call is
replayed from them.
-/

namespace M3Midi

open Foundation GeneratedNoteLedger

/-- The header of an input event. -/
structure InputHeader where
  time : ℕ
  /-- Is it a MIDI event of the core space? -/
  coreMidi : Bool := true
  /-- Is it as large as a MIDI event? -/
  complete : Bool := true
  deriving DecidableEq, Repr

/-- An event the pipeline offers to the host: a MIDI message of its own, or an input event.
Messages and inputs are told apart in the log, though the host sees one list. -/
inductive HostEvent
  | midi (offset status data1 data2 : ℕ)
  | input (index : ℕ) (header : InputHeader)
  deriving DecidableEq, Repr

/-- One offer, with the host's answer. -/
structure HostPush where
  event : HostEvent
  accepted : Bool
  deriving DecidableEq, Repr

/-- The host's output list; absent when it cannot be pushed to. Its answers depend on the
events offered before in the same call. -/
abbrev OutputEvents := Option (List HostPush → HostEvent → Bool)

/-- The arguments of `MidiPipeline::process`; an input event without a header is absent. -/
structure MidiCall where
  framesCount : ℕ
  oneBasedChannel : ℕ := 1
  input : List (Option InputHeader) := []
  output : OutputEvents
  /-- Absent when the peak is not finite. -/
  selectedInputPeak : Option ℚ := some 0
  finiteInput : Bool := true
  supportedLayout : Bool := true
  routing : MidiRouting := .single

/-- `MidiProcessResult`, what the caller of `process` learns. -/
structure MidiProcessResult where
  invalidEvent : Bool
  outputBlocked : Bool
  panicHold : Bool
  detectionAllowed : Bool
  deriving DecidableEq, Repr

/-- The pipeline's part of a call: the input events that remain, each with its index, and
the fields the merge changes. -/
structure DeliveryContext where
  remaining : List (Option InputHeader × ℕ)
  lastInputOffset : Option ℕ := none
  invalidEvent : Bool
  channelPanicMask : BitVec 16
  log : List HostPush := []

/-- The channels of a route, one bit for each. -/
def routeMask (routing : MidiRouting) (startChannel : ℕ) : BitVec 16 :=
  (List.range (match routing with | .perVoice => maxVoices | .single => 1)).foldl
    (fun mask slot => mask ||| BitVec.twoPow 16 (laneChannel startChannel slot - 1)) 0

/-- The message of a generated note. -/
def generatedMidi (transition : VoiceTransition) (channel : ℕ) : HostEvent :=
  match transition.kind with
  | .noteOff => .midi transition.sampleOffset (0x80 + (channel - 1)) transition.note 0
  | .noteOn => .midi transition.sampleOffset (0x90 + (channel - 1)) transition.note
      transition.velocity

/-- The message of a controller that silences a channel. -/
def channelPanic (channel controller : ℕ) : HostEvent :=
  .midi 0 (0xB0 + (channel - 1)) controller 0

namespace DeliveryContext

/-- Offer an event to the host; without an output list nothing is offered. -/
def offer (context : DeliveryContext) (output : OutputEvents) (event : HostEvent) :
    Bool × DeliveryContext :=
  match output with
  | none => (false, context)
  | some answer =>
      let accepted := answer context.log event
      (accepted, { context with log := context.log ++ [⟨event, accepted⟩] })

/-- The channels of the call's route are to be silenced. -/
def markRoute (context : DeliveryContext) (call : MidiCall) : DeliveryContext :=
  { context with
    channelPanicMask := context.channelPanicMask ||| routeMask call.routing call.oneBasedChannel }

end DeliveryContext

/-- Is an input event left out: beyond the block, or earlier than one before it? -/
def untimely (framesCount : ℕ) (lastInputOffset : Option ℕ) (header : InputHeader) : Bool :=
  framesCount ≤ header.time || lastInputOffset.any (header.time < ·)

/-- The loop of `flush_inputs` over the input events that remain: it passes on those that
are due, and stops at the first one that is not. -/
def flushInputs (call : MidiCall) (due : ℕ → Bool) :
    List (Option InputHeader × ℕ) → DeliveryContext → Bool × DeliveryContext
  | [], context => (true, { context with remaining := [] })
  | (none, _) :: rest, context => flushInputs call due rest { context with invalidEvent := true }
  | (some header, index) :: rest, context =>
      if due header.time = false then
        (true, { context with remaining := (some header, index) :: rest })
      else if untimely call.framesCount context.lastInputOffset header then
        flushInputs call due rest { context with invalidEvent := true }
      else
        let read := { context with lastInputOffset := some header.time }
        if header.coreMidi = false then flushInputs call due rest read
        else if header.complete = false then
          flushInputs call due rest { read with invalidEvent := true }
        else
          match read.offer call.output (.input index header) with
          | (true, accepted) => flushInputs call due rest accepted
          | (false, rejected) => (false, (flushInputs call due rest (rejected.markRoute call)).2)

/-- The input events that come before a generated event. -/
def dueBefore (transition : VoiceTransition) (time : ℕ) : Bool :=
  time < transition.sampleOffset || (transition.kind = .noteOn && time = transition.sampleOffset)

/-- Push one generated event, after the input events that are due (`push_generated`). -/
def pushGenerated (call : MidiCall) (context : DeliveryContext) (transition : VoiceTransition)
    (channel : ℕ) : Bool × DeliveryContext :=
  match flushInputs call (dueBefore transition) context.remaining context with
  | (false, refused) => (false, refused)
  | (true, flushed) =>
      match flushed.offer call.output (generatedMidi transition channel) with
      | (true, accepted) => (true, accepted)
      | (false, rejected) => (false, rejected.markRoute call)

/-- The pipeline's part of the pushes the ledger has made. -/
def replayPushes (call : MidiCall) (context : DeliveryContext) (pushed : List Push) :
    DeliveryContext :=
  pushed.foldl (fun current push => (pushGenerated call current push.transition push.channel).2)
    context

/-- The pipeline as the ledger's sink. -/
def pipelineSink (call : MidiCall) (context : DeliveryContext) : NoteEventSink :=
  some fun pushed transition channel =>
    (pushGenerated call (replayPushes call context pushed) transition channel).1

/-- `MidiPipeline`: the ledger of the notes, and what it takes to silence channels. The mask has a
bit for each channel that may still sound, because a note-off of it was refused or never sent. -/
structure MidiPipeline where
  ledger : GeneratedNoteLedger := {}
  invalidEvent : Bool := false
  channelPanicMask : BitVec 16 := 0
  routing : MidiRouting := .single
  startChannel : ℕ := 1

/-- A call of `process` under way. The ledger and the rest of the pipeline change side by side
until the call is over. -/
structure Serving where
  ledger : GeneratedNoteLedger
  context : DeliveryContext

namespace Serving

/-- Silence the channels of the mask that remain, each with both controllers or not at all. The
controllers are `123` and then `120`. The first refusal stops the loop, and the mask keeps what is
left. -/
def retryChannels (output : OutputEvents) : List ℕ → DeliveryContext → Bool × DeliveryContext
  | [], context => (true, context)
  | channel :: rest, context =>
      if context.channelPanicMask.getLsbD (channel - 1) = false then
        retryChannels output rest context
      else
        match context.offer output (channelPanic channel 123) with
        | (false, rejected) => (false, rejected)
        | (true, notesOff) =>
            match notesOff.offer output (channelPanic channel 120) with
            | (false, rejected) => (false, rejected)
            | (true, soundOff) =>
                retryChannels output rest { soundOff with
                  channelPanicMask :=
                    soundOff.channelPanicMask &&& ~~~BitVec.twoPow 16 (channel - 1) }

/-- `retry_channel_panics`: the channels wait until no release is pending, and a refusal latches
the output. -/
def retryChannelPanics (serving : Serving) (output : OutputEvents) : Bool × Serving :=
  if serving.context.channelPanicMask = 0 ∨ serving.ledger.releasePending then
    (serving.context.channelPanicMask = 0, serving)
  else
    match retryChannels output (List.range' 1 16) serving.context with
    | (true, context) => (true, { serving with context })
    | (false, context) => (false, { ledger := serving.ledger.reportOutputFailure, context })

/-- Pass on all input events that remain; a refused one blocks the output. -/
def flushRest (serving : Serving) (call : MidiCall) : Serving :=
  match flushInputs call (fun _ => true) serving.context.remaining serving.context with
  | (true, context) => { serving with context }
  | (false, context) => { ledger := serving.ledger.reportOutputFailure, context }

end Serving

/-- The outcome of a call, with the events it offered to the host. -/
structure Served where
  result : MidiProcessResult
  pipeline : MidiPipeline
  log : List HostPush

namespace MidiPipeline

/-- `deactivate`: everything is given up. -/
def deactivate (_pipeline : MidiPipeline) : MidiPipeline := {}

/-- `activate`: a pipeline without any notes, with storage for the largest block. -/
def activate (pipeline : MidiPipeline) (maxFrames : ℕ) (granted : Bool) : Bool × MidiPipeline :=
  let outcome := pipeline.deactivate.ledger.activate maxFrames granted
  (outcome.1, { pipeline.deactivate with ledger := outcome.2 })

/-- `begin_block`: what is left in the queue is dropped. -/
def beginBlock (pipeline : MidiPipeline) : MidiPipeline :=
  { pipeline with ledger := pipeline.ledger.beginBlock, invalidEvent := false }

/-- `queue_transition`: a refused transition makes the block invalid. -/
def queueTransition (pipeline : MidiPipeline) (transition : VoiceTransition) (framesCount : ℕ) :
    Bool × MidiPipeline :=
  let outcome := pipeline.ledger.queueTransition transition framesCount
  (outcome.1, { pipeline with
    ledger := outcome.2, invalidEvent := pipeline.invalidEvent || !outcome.1 })

/-- `enter_output_blocked`: the output is latched, and the channels of the route are to be
silenced. -/
def enterOutputBlocked (pipeline : MidiPipeline) : MidiPipeline :=
  { pipeline with
    ledger := pipeline.ledger.reportOutputFailure
    channelPanicMask :=
      pipeline.channelPanicMask ||| routeMask pipeline.routing pipeline.startChannel }

/-- `request_panic`: the ledger recovers, and all active notes are queued for release. -/
def requestPanic (pipeline : MidiPipeline) (offset framesCount : ℕ) : Bool × MidiPipeline :=
  let outcome := pipeline.ledger.requestRecovery.queueActiveReleases offset framesCount
  let queued := { pipeline with ledger := outcome.2 }
  (outcome.1, if outcome.1 then queued else queued.enterOutputBlocked)

/-- `request_reset`: all active notes wait for their release, and the ledger recovers. -/
def requestReset (pipeline : MidiPipeline) : MidiPipeline :=
  { pipeline with ledger := pipeline.ledger.requestReleaseAll.requestRecovery }

/-- The context a call starts with. -/
def context (pipeline : MidiPipeline) (call : MidiCall) : DeliveryContext where
  remaining := call.input.zipIdx
  invalidEvent := pipeline.invalidEvent
  channelPanicMask := pipeline.channelPanicMask

/-- What the call asks of the ledger. -/
def request (pipeline : MidiPipeline) (call : MidiCall) : DeliveryRequest where
  frames := call.framesCount
  sink := pipelineSink call (pipeline.context call)
  selectedPeak := call.selectedInputPeak
  finiteInput := call.finiteInput
  supportedLayout := call.supportedLayout
  routing := call.routing
  startChannel := call.oneBasedChannel

/-- The ledger's delivery, and what the pipeline makes of its result. A delivery that has blocked
the output marks the channels of the route, unless some are marked already. -/
def deliver (pipeline : MidiPipeline) (call : MidiCall) : Serving :=
  let outcome := Delivery.deliver { ledger := pipeline.ledger } (pipeline.request call)
  let generated := outcome.1
  let context := replayPushes call (pipeline.context call) outcome.2.pushed
  let checked := { context with
    invalidEvent := context.invalidEvent ||
      (!generated.detectionAllowed && !generated.outputBlocked && !generated.panicHold) }
  { ledger := outcome.2.ledger
    context :=
      if generated.outputBlocked ∧ checked.channelPanicMask = 0 then checked.markRoute call
      else checked }

/-- The channels that were in the mask before the call are silenced after its delivery. -/
def silence (pipeline : MidiPipeline) (call : MidiCall) : Serving :=
  let delivered := pipeline.deliver call
  if pipeline.channelPanicMask ≠ 0 then (delivered.retryChannelPanics call.output).2 else delivered

/-- Does `process` refuse its arguments? -/
def refuses (call : MidiCall) : Bool :=
  call.framesCount = 0 || maxHostFrames < call.framesCount || call.oneBasedChannel = 0 ||
    16 < call.oneBasedChannel

/-- `process`: a call with impossible arguments is refused. Otherwise releases come first, then the
channels to be silenced, the queue merged with the inputs, and the inputs that remain. -/
def process (pipeline : MidiPipeline) (call : MidiCall) : Served :=
  if refuses call then
    { result := ⟨true, pipeline.ledger.outputBlocked, pipeline.ledger.panicHold, false⟩
      pipeline := { pipeline with invalidEvent := true }
      log := [] }
  else
    let served := (pipeline.silence call).flushRest call
    { result := ⟨served.context.invalidEvent, served.ledger.outputBlocked,
        served.ledger.panicHold, !served.context.invalidEvent && !served.ledger.outputBlocked &&
          !served.ledger.panicHold⟩
      pipeline := {
        ledger := served.ledger
        invalidEvent := served.context.invalidEvent
        channelPanicMask := served.context.channelPanicMask
        routing := call.routing
        startChannel := call.oneBasedChannel }
      log := served.context.log }

end MidiPipeline

/-- The operations of a pipeline. Their arguments are those of the calls, with the host's list and
its answers included. -/
inductive PipelineOperation
  | activate (maxFrames : ℕ) (granted : Bool)
  | deactivate
  | beginBlock
  | queueTransition (transition : VoiceTransition) (framesCount : ℕ)
  | requestPanic (offset framesCount : ℕ)
  | requestReset
  | process (call : MidiCall)

namespace MidiPipeline

/-- The pipeline after an operation. -/
def operate (pipeline : MidiPipeline) : PipelineOperation → MidiPipeline
  | .activate maxFrames granted => (pipeline.activate maxFrames granted).2
  | .deactivate => pipeline.deactivate
  | .beginBlock => pipeline.beginBlock
  | .queueTransition transition framesCount => (pipeline.queueTransition transition framesCount).2
  | .requestPanic offset framesCount => (pipeline.requestPanic offset framesCount).2
  | .requestReset => pipeline.requestReset
  | .process call => (pipeline.process call).pipeline

/-- The states of a pipeline between its operations. -/
inductive Reachable : MidiPipeline → Prop
  | initial : Reachable {}
  | operate {pipeline : MidiPipeline} (reached : Reachable pipeline)
      (operation : PipelineOperation) : Reachable (pipeline.operate operation)

end MidiPipeline

/-! ## Failures reported from inside a delivery -/

namespace GeneratedNoteLedger

/-- A second failure adds nothing to the first. -/
theorem enterBlocked_idem (ledger : GeneratedNoteLedger) :
    ledger.enterBlocked.enterBlocked = ledger.enterBlocked := by
  simp [enterBlocked, requestReleaseAll]

/-- Whether a failure is reported before the refused voice is marked or after it, the
ledger ends the same. -/
theorem enterBlocked_reported (ledger : GeneratedNoteLedger) (slot : Fin maxVoices) :
    (Delivery.markPending slot ledger.enterBlocked).enterBlocked =
      (Delivery.markPending slot ledger).enterBlocked := by
  have voices (other : Fin maxVoices) :
      (Delivery.markPending slot ledger.enterBlocked).enterBlocked.voices other =
        (Delivery.markPending slot ledger).enterBlocked.voices other := by
    by_cases same : other = slot
    · subst same
      simp [Delivery.markPending, enterBlocked, requestReleaseAll]
    · simp [Delivery.markPending, enterBlocked, requestReleaseAll, Function.update_of_ne same]
  have known : ∀ first second : GeneratedNoteLedger,
      { first with voices := second.voices } = second → first.voices = second.voices →
        first = second := by
    intro first second rest same
    rw [← same] at rest
    exact rest
  exact known _ _ rfl (funext voices)

end GeneratedNoteLedger

end M3Midi
