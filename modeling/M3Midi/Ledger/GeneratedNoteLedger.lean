import M3Midi.Types
import M3Midi.Foundation.SlotArray
import M3Midi.Foundation.StableInsertion
import M3Midi.Foundation.Transducer
import Mathlib.Algebra.Group.Nat.Defs

/-! # The generated-note ledger

The ledger remembers which notes the host has accepted and still holds, so that
each of them can be released on the channel it was sent on. A block queues
transitions sorted by sample offset, note-offs before note-ons; delivery pushes
them to the host's sink and records what the sink accepted. A rejected push
blocks the output until a panic recovers it.
-/

namespace M3Midi

open Foundation

/-- One note the host accepted (`GeneratedNoteLedger::ActiveVoice`). It keeps what a release needs:
the note, the channel it went to and the lane. -/
structure ActiveVoice where
  active : Bool := false
  pendingRelease : Bool := false
  note : Nat := 0
  channel : Nat := 0
  voiceId : Nat := unassignedVoiceId
  deriving DecidableEq, Repr

/-- One push to the sink, with the sink's answer. -/
structure Push where
  transition : VoiceTransition
  channel : Nat
  accepted : Bool
  deriving DecidableEq, Repr

/-- A sink may have no push function. Otherwise its answer to a push depends on
the pushes it has received before in the same call. -/
abbrev NoteEventSink := Option (List Push → VoiceTransition → Nat → Bool)

/-- The answer of `GeneratedNoteLedger::deliver_queued`. -/
structure NoteDeliveryResult where
  outputBlocked : Bool
  panicHold : Bool
  detectionAllowed : Bool
  deriving DecidableEq, Repr

/-- The state of `GeneratedNoteLedger`; `queue` holds the first `size_` entries
of the storage. -/
structure GeneratedNoteLedger where
  allocated : Bool := false
  capacity : Nat := 0
  queue : List VoiceTransition := []
  maxFrames : Nat := 0
  voices : Fin maxVoices → ActiveVoice := fun _ => {}
  activeCount : Nat := 0
  invalidTransition : Bool := false
  outputBlocked : Bool := false
  cleanupComplete : Bool := false
  panicHold : Bool := false
  recoveryRequested : Bool := false
  holdCallsRemaining : Nat := 0

/-- A ledger in the middle of a call, with the pushes the call has made. The sink's answers may
depend on all the pushes before. -/
structure Delivery where
  ledger : GeneratedNoteLedger
  pushed : List Push := []

/-- The arguments of one delivery. The sink is absent when the host passes no event list. -/
structure DeliveryRequest where
  frames : Nat
  sink : NoteEventSink
  /-- Absent when the peak is not finite. -/
  selectedPeak : Option ℚ
  finiteInput : Bool
  supportedLayout : Bool
  routing : MidiRouting := .single
  startChannel : Nat := 1

namespace ActiveVoice

/-- A slot is in use while its note sounds or waits for its release. -/
def occupied (voice : ActiveVoice) : Bool := voice.active || voice.pendingRelease

end ActiveVoice

namespace GeneratedNoteLedger

/-- Storage for one block; `granted` tells whether the allocation succeeded. There is room for the
transitions of all decisions of the largest block, and for one release of all voices. -/
def allocateStorage (ledger : GeneratedNoteLedger) (maxFrames : Nat) (granted : Bool) :
    Bool × GeneratedNoteLedger :=
  if maxFrames = 0 ∨ maxFrames > maxHostFrames then (false, ledger)
  else
    let ticks := (maxFrames + decisionQuantum - 1) / decisionQuantum
    if ticks > (2 ^ 64 - 1 - maxVoices) / maxTickTransitions then (false, ledger)
    else if granted then
      (true, { ledger with
        allocated := true
        capacity := ticks * maxTickTransitions + maxVoices
        maxFrames := maxFrames })
    else (false, ledger)

/-- The queue and its storage are given up; the voices stay. -/
def resetStorage (ledger : GeneratedNoteLedger) : GeneratedNoteLedger :=
  { ledger with
    allocated := false, capacity := 0, queue := [], maxFrames := 0, invalidTransition := false }

/-- `deactivate`: everything is given up, the notes that sound included. -/
def deactivate (_ledger : GeneratedNoteLedger) : GeneratedNoteLedger := {}

/-- `activate`: a ledger without any notes, with storage for the largest block. -/
def activate (ledger : GeneratedNoteLedger) (maxFrames : Nat) (granted : Bool) :
    Bool × GeneratedNoteLedger :=
  ledger.deactivate.allocateStorage maxFrames granted

/-- `activate_preserving_pending`: new storage, while the notes stay in their slots. -/
def activatePreservingPending (ledger : GeneratedNoteLedger) (maxFrames : Nat)
    (granted : Bool) : Bool × GeneratedNoteLedger :=
  ledger.resetStorage.allocateStorage maxFrames granted

/-- Every active voice waits for its release. -/
def requestReleaseAll (ledger : GeneratedNoteLedger) : GeneratedNoteLedger :=
  { ledger with
    voices := fun slot =>
      { ledger.voices slot with
        pendingRelease := (ledger.voices slot).active || (ledger.voices slot).pendingRelease }
    cleanupComplete :=
      ledger.cleanupComplete && !(List.finRange maxVoices).any fun slot =>
        (ledger.voices slot).active }

/-- `release_storage_preserving_pending`: all notes wait for their release, and the storage is
given up. -/
def releaseStoragePreservingPending (ledger : GeneratedNoteLedger) : GeneratedNoteLedger :=
  ledger.requestReleaseAll.resetStorage

/-- `begin_block`: what is left in the queue is dropped. -/
def beginBlock (ledger : GeneratedNoteLedger) : GeneratedNoteLedger :=
  { ledger with queue := [], invalidTransition := false }

/-- Queue order: sample offset, then note-offs first, then sequence. -/
def transitionBefore (left right : VoiceTransition) : Bool :=
  if left.sampleOffset ≠ right.sampleOffset then left.sampleOffset < right.sampleOffset
  else if left.kind ≠ right.kind then left.kind = .noteOff
  else left.sequence < right.sequence

/-- The field checks `queue_transition` makes on a transition. -/
def validTransition (transition : VoiceTransition) : Bool :=
  let validVelocity := match transition.kind with
    | .noteOff => decide (transition.velocity = 0)
    | .noteOn => decide (0 < transition.velocity ∧ transition.velocity ≤ 127)
  let validVoice := transition.voiceId = unassignedVoiceId ∨ transition.voiceId < maxVoices
  decide (transition.note ≤ 127) && validVelocity && decide validVoice

/-- `queue_transition`: a transition that does not fit the block or its fields is refused, and the
refusal is kept for the delivery. -/
def queueTransition (ledger : GeneratedNoteLedger) (transition : VoiceTransition)
    (frames : Nat) : Bool × GeneratedNoteLedger :=
  if ledger.allocated = false ∨ ledger.queue.length ≥ ledger.capacity ∨ frames = 0 ∨
      frames > ledger.maxFrames ∨ transition.sampleOffset ≥ frames ∨
      validTransition transition = false then
    (false, { ledger with invalidTransition := true })
  else
    (true, { ledger with queue := insertFromBack transitionBefore transition ledger.queue })

/-- The release of one sounding voice within a block. -/
def activeRelease (voice : ActiveVoice) (sampleOffset sequence : Nat) : VoiceTransition where
  sampleOffset := sampleOffset
  kind := .noteOff
  note := voice.note
  velocity := 0
  sequence := sequence
  voiceId := voice.voiceId

/-- The loop of `queue_active_releases` over the slots that remain. -/
def queueReleasesOf (sampleOffset frames : Nat) :
    List (Fin maxVoices) → Nat → Bool × GeneratedNoteLedger → Bool × GeneratedNoteLedger
  | [], _, progress => progress
  | slot :: slots, sequence, (complete, ledger) =>
      let voice := ledger.voices slot
      if voice.active then
        let queued := ledger.queueTransition (activeRelease voice sampleOffset sequence) frames
        queueReleasesOf sampleOffset frames slots (sequence + 1) (queued.1 && complete, queued.2)
      else queueReleasesOf sampleOffset frames slots sequence (complete, ledger)

/-- `queue_active_releases`: the releases of all active slots, at one offset of the block. -/
def queueActiveReleases (ledger : GeneratedNoteLedger) (sampleOffset frames : Nat) :
    Bool × GeneratedNoteLedger :=
  queueReleasesOf sampleOffset frames (List.finRange maxVoices) 0 (true, ledger)

/-- Does the slot hold the note a transition names? A transition with a string
names that string's note; one without names a note without a string. -/
def holds (voice : ActiveVoice) (transition : VoiceTransition) : Bool :=
  voice.occupied && voice.note = transition.note &&
    if transition.voiceId < maxVoices then voice.voiceId = transition.voiceId
    else voice.voiceId = unassignedVoiceId

/-- `find_voice`, the first slot that holds the note of a transition. -/
def findVoice (ledger : GeneratedNoteLedger) (transition : VoiceTransition) :
    Option (Fin maxVoices) :=
  firstSlot fun slot => holds (ledger.voices slot) transition

/-- `find_free_voice`, the first slot that is neither active nor pending. -/
def findFreeVoice (ledger : GeneratedNoteLedger) : Option (Fin maxVoices) :=
  firstSlot fun slot => !(ledger.voices slot).occupied

/-- Some slot waits for its release. -/
def releasePending (ledger : GeneratedNoteLedger) : Bool :=
  (List.finRange maxVoices).any fun slot => (ledger.voices slot).pendingRelease

/-- Is some occupied slot on the channel? -/
def channelUsed (ledger : GeneratedNoteLedger) (channel : Nat) : Bool :=
  (List.finRange maxVoices).any fun slot =>
    (ledger.voices slot).occupied && (ledger.voices slot).channel = channel

/-- The channel that lies a number of lanes above the start channel. -/
def laneChannel (startChannel lane : Nat) : Nat := (startChannel - 1 + lane) % 16 + 1

/-- The channel for a note-on; zero when there is none. With one channel for each voice, it is that
of the lane, or the first one that is not in use. -/
def allocateChannel (ledger : GeneratedNoteLedger) (routing : MidiRouting)
    (startChannel : Nat) (transition : VoiceTransition) : Nat :=
  if startChannel < 1 ∨ startChannel > 16 then 0
  else match routing with
    | .single => startChannel
    | .perVoice =>
        if transition.voiceId < maxVoices then
          let channel := laneChannel startChannel transition.voiceId
          if ledger.channelUsed channel then 0 else channel
        else
          match (List.range maxVoices).find? fun slot =>
              !ledger.channelUsed (laneChannel startChannel slot) with
          | some slot => laneChannel startChannel slot
          | none => 0

/-- `enter_blocked`: the output is latched, and all notes wait for their release. -/
def enterBlocked (ledger : GeneratedNoteLedger) : GeneratedNoteLedger :=
  { ledger with outputBlocked := true, cleanupComplete := false }.requestReleaseAll

/-- `report_output_failure`: a failure outside of the ledger latches the output, too. -/
def reportOutputFailure (ledger : GeneratedNoteLedger) : GeneratedNoteLedger :=
  ledger.enterBlocked

/-- `request_recovery`: the hold begins, and lasts for one more call at least. -/
def requestRecovery (ledger : GeneratedNoteLedger) : GeneratedNoteLedger :=
  { ledger with panicHold := true, recoveryRequested := true, holdCallsRemaining := 1 }

/-- The slot no longer holds a note. -/
def clearVoice (ledger : GeneratedNoteLedger) (slot : Fin maxVoices) : GeneratedNoteLedger :=
  { ledger with
    activeCount :=
      if (ledger.voices slot).active ∧ ledger.activeCount > 0 then ledger.activeCount - 1
      else ledger.activeCount
    voices := Function.update ledger.voices slot {} }

/-- Peak below which the input counts as quiet (`kQuietPeak`). -/
def quietPeak : ℚ := 1 / 10000

/-- A panic hold lasts one call and ends on quiet input after all releases. The output is opened
again with it, since nothing is left to be released. -/
def finishHold (ledger : GeneratedNoteLedger) (request : DeliveryRequest) :
    GeneratedNoteLedger :=
  if ledger.panicHold = false then ledger
  else if ledger.holdCallsRemaining > 0 then
    { ledger with holdCallsRemaining := ledger.holdCallsRemaining - 1 }
  else if ledger.recoveryRequested ∧ ledger.cleanupComplete ∧ request.finiteInput ∧
      request.supportedLayout ∧ request.selectedPeak.any (· < quietPeak) then
    { ledger with
      panicHold := false
      recoveryRequested := false
      outputBlocked := false
      cleanupComplete := false }
  else ledger

end GeneratedNoteLedger

namespace Delivery

open GeneratedNoteLedger

/-- A call changes the ledger and pushes nothing. -/
def mapLedger (delivery : Delivery) (change : GeneratedNoteLedger → GeneratedNoteLedger) :
    Delivery :=
  { delivery with ledger := change delivery.ledger }

/-- Push one transition; a missing sink or an invalid channel rejects it. -/
def push (delivery : Delivery) (sink : NoteEventSink) (transition : VoiceTransition)
    (channel : Nat) : Bool × Delivery :=
  match sink with
  | none => (false, delivery)
  | some answer =>
      if channel ≥ 1 ∧ channel ≤ 16 then
        let accepted := answer delivery.pushed transition channel
        (accepted, { delivery with pushed := delivery.pushed ++ [⟨transition, channel, accepted⟩] })
      else (false, delivery)

/-- The release that a retry pushes for a pending voice. -/
def pendingRelease (voice : ActiveVoice) (note : Nat) : VoiceTransition where
  sampleOffset := 0
  kind := .noteOff
  note := voice.note
  velocity := 0
  sequence := note
  voiceId := voice.voiceId

/-- The loop of `retry_pending_releases` over the notes and slots that remain. A refusal latches
the output and stops the loop. -/
def retryReleases (sink : NoteEventSink) :
    List (Nat × Fin maxVoices) → Delivery → Bool × Delivery
  | [], delivery => (true, delivery)
  | (note, slot) :: rest, delivery =>
      let voice := delivery.ledger.voices slot
      if voice.pendingRelease = false ∨ voice.note ≠ note then retryReleases sink rest delivery
      else
        match delivery.push sink (pendingRelease voice note) voice.channel with
        | (false, rejected) => (false, rejected.mapLedger enterBlocked)
        | (true, accepted) =>
            retryReleases sink rest (accepted.mapLedger fun ledger => ledger.clearVoice slot)

/-- Notes ascending, and for each note the slots in order. -/
def retryOrder : List (Nat × Fin maxVoices) :=
  (List.range 128).flatMap fun note => (List.finRange maxVoices).map fun slot => (note, slot)

/-- All pending releases have been taken. -/
def completeCleanup (ledger : GeneratedNoteLedger) : GeneratedNoteLedger :=
  { ledger with cleanupComplete := true }

/-- `retry_pending_releases`: the pending releases are pushed, as far as the sink takes them. -/
def retryPendingReleases (delivery : Delivery) (sink : NoteEventSink) : Bool × Delivery :=
  if delivery.ledger.releasePending = false then (true, delivery.mapLedger completeCleanup)
  else
    match retryReleases sink retryOrder delivery with
    | (false, rejected) => (false, rejected)
    | (true, released) => (true, released.mapLedger completeCleanup)

/-- The voice whose release the sink rejected waits for a retry. -/
def markPending (slot : Fin maxVoices) (ledger : GeneratedNoteLedger) : GeneratedNoteLedger :=
  { ledger with
    voices := Function.update ledger.voices slot
      { ledger.voices slot with pendingRelease := true } }

/-- The slot holds the note of an accepted note-on. -/
def occupyVoice (slot : Fin maxVoices) (event : VoiceTransition) (channel : Nat)
    (ledger : GeneratedNoteLedger) : GeneratedNoteLedger :=
  { ledger with
    voices := Function.update ledger.voices slot
      { active := true, pendingRelease := false, note := event.note, channel := channel
        voiceId := event.voiceId }
    activeCount := ledger.activeCount + 1 }

/-- A note-on may not reuse a note or a string that is still occupied. -/
def identityInUse (ledger : GeneratedNoteLedger) (event : VoiceTransition) : Bool :=
  (ledger.findVoice event).isSome ||
    (event.voiceId < maxVoices && (List.finRange maxVoices).any fun slot =>
      (ledger.voices slot).occupied && (ledger.voices slot).voiceId = event.voiceId)

/-- One queued note-off; the flag tells whether delivery goes on. -/
def deliverNoteOff (delivery : Delivery) (sink : NoteEventSink) (event : VoiceTransition) :
    Bool × Delivery :=
  match delivery.ledger.findVoice event with
  | none => (false, delivery.mapLedger enterBlocked)
  | some slot =>
      match delivery.push sink event (delivery.ledger.voices slot).channel with
      | (false, rejected) =>
          (false, rejected.mapLedger fun ledger => (markPending slot ledger).enterBlocked)
      | (true, accepted) => (true, accepted.mapLedger fun ledger => ledger.clearVoice slot)

/-- One queued note-on; the flag tells whether delivery goes on. It is skipped on hold, and refused
when its note or lane is still occupied. -/
def deliverNoteOn (delivery : Delivery) (request : DeliveryRequest) (event : VoiceTransition) :
    Bool × Delivery :=
  if delivery.ledger.panicHold then (true, delivery)
  else if identityInUse delivery.ledger event then (false, delivery.mapLedger enterBlocked)
  else if delivery.ledger.activeCount ≥ maxVoices then (false, delivery.mapLedger enterBlocked)
  else
    let channel := delivery.ledger.allocateChannel request.routing request.startChannel event
    match delivery.ledger.findFreeVoice with
    | none => (false, delivery.mapLedger enterBlocked)
    | some slot =>
        if channel = 0 then (false, delivery.mapLedger enterBlocked)
        else
          match delivery.push request.sink event channel with
          | (false, rejected) => (false, rejected.mapLedger enterBlocked)
          | (true, accepted) => (true, accepted.mapLedger (occupyVoice slot event channel))

/-- One queued event; events beyond the block are skipped. -/
def deliverEvent (delivery : Delivery) (request : DeliveryRequest) (event : VoiceTransition) :
    Bool × Delivery :=
  if event.sampleOffset ≥ request.frames then (true, delivery)
  else match event.kind with
    | .noteOff => delivery.deliverNoteOff request.sink event
    | .noteOn => delivery.deliverNoteOn request event

/-- The delivery loop; it leaves at the first event that blocks the output. -/
def deliverEvents (request : DeliveryRequest) : List VoiceTransition → Delivery → Delivery
  | [], delivery => delivery
  | event :: events, delivery =>
      match delivery.deliverEvent request event with
      | (true, next) => deliverEvents request events next
      | (false, blocked) => blocked

/-- A bad start channel or an event beyond the block marks the block invalid. -/
def checkRequest (request : DeliveryRequest) (ledger : GeneratedNoteLedger) :
    GeneratedNoteLedger :=
  { ledger with
    invalidTransition := ledger.invalidTransition ||
      decide (request.startChannel < 1 ∨ request.startChannel > 16) ||
      ledger.queue.any fun event => event.sampleOffset ≥ request.frames }

/-- `deliver_queued`: the queue, unless releases are pending or the output is blocked, and then the
end of a hold. -/
def deliverQueued (delivery : Delivery) (request : DeliveryRequest) :
    NoteDeliveryResult × Delivery :=
  if delivery.ledger.allocated = false ∨ request.frames = 0 ∨
      request.frames > delivery.ledger.maxFrames then
    let invalid := delivery.mapLedger fun ledger => { ledger with invalidTransition := true }
    (⟨invalid.ledger.outputBlocked, invalid.ledger.panicHold, false⟩, invalid)
  else
    let checked := delivery.mapLedger (checkRequest request)
    let delivered :=
      if checked.ledger.releasePending = false ∧ checked.ledger.outputBlocked = false then
        deliverEvents request checked.ledger.queue checked
      else checked
    let finished := delivered.mapLedger fun ledger => ledger.finishHold request
    (⟨finished.ledger.outputBlocked, finished.ledger.panicHold,
      !finished.ledger.invalidTransition && !finished.ledger.outputBlocked &&
        !finished.ledger.panicHold⟩, finished)

/-- `deliver`: the pending releases first, and then what is queued. -/
def deliver (delivery : Delivery) (request : DeliveryRequest) : NoteDeliveryResult × Delivery :=
  (delivery.retryPendingReleases request.sink).2.deliverQueued request

end Delivery

/-- The operations of a ledger between its activation and its deactivation. -/
inductive LedgerOperation
  | activatePreservingPending (maxFrames : Nat) (granted : Bool)
  | beginBlock
  | queueTransition (transition : VoiceTransition) (frames : Nat)
  | queueActiveReleases (sampleOffset frames : Nat)
  | requestReleaseAll
  | reportOutputFailure
  | requestRecovery
  | retryPendingReleases (sink : NoteEventSink)
  | deliverQueued (request : DeliveryRequest)
  | deliver (request : DeliveryRequest)
  | releaseStoragePreservingPending

namespace GeneratedNoteLedger

/-- One operation, with the pushes it makes. -/
def operate (ledger : GeneratedNoteLedger) : LedgerOperation → Delivery
  | .activatePreservingPending maxFrames granted =>
      { ledger := (ledger.activatePreservingPending maxFrames granted).2 }
  | .beginBlock => { ledger := ledger.beginBlock }
  | .queueTransition transition frames =>
      { ledger := (ledger.queueTransition transition frames).2 }
  | .queueActiveReleases sampleOffset frames =>
      { ledger := (ledger.queueActiveReleases sampleOffset frames).2 }
  | .requestReleaseAll => { ledger := ledger.requestReleaseAll }
  | .reportOutputFailure => { ledger := ledger.reportOutputFailure }
  | .requestRecovery => { ledger := ledger.requestRecovery }
  | .retryPendingReleases sink => (Delivery.retryPendingReleases { ledger } sink).2
  | .deliverQueued request => (Delivery.deliverQueued { ledger } request).2
  | .deliver request => (Delivery.deliver { ledger } request).2
  | .releaseStoragePreservingPending => { ledger := ledger.releaseStoragePreservingPending }

/-- The ledger as a machine that reads operations and emits pushes. -/
def machine : Transducer LedgerOperation GeneratedNoteLedger Push where
  step ledger operation :=
    ((ledger.operate operation).ledger, (ledger.operate operation).pushed)

end GeneratedNoteLedger

end M3Midi
