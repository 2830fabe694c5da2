import M3Midi.Ledger.Gating
import M3Midi.Ledger.Accounting

/-! # The identity of a sounding note

A host tells notes apart by channel and pitch, or by a note id. As long as voices name
their strings exactly in per-voice routing, and the routing changes only while nothing
sounds, no two notes of a ledger are alike to the host
(`M3Midi.Routed.distinct_identities`).
-/

namespace M3Midi

open Foundation GeneratedNoteLedger

/-- The note id that `push_vst3_note` gives a note. -/
def vst3NoteId (voiceId note : ℕ) : ℤ :=
  -1000 - (if voiceId < maxVoices then (voiceId * 128 + note : ℤ) else note)

/-- A transition names its string exactly in per-voice routing. -/
def AssignedFor : MidiRouting → VoiceTransition → Prop
  | .single, transition => transition.voiceId = unassignedVoiceId
  | .perVoice, transition => transition.voiceId < maxVoices

/-- The condition is a comparison of lanes, which can be checked. -/
instance (routing : MidiRouting) (transition : VoiceTransition) :
    Decidable (AssignedFor routing transition) :=
  match routing with
  | .single => inferInstanceAs (Decidable (transition.voiceId = unassignedVoiceId))
  | .perVoice => inferInstanceAs (Decidable (transition.voiceId < maxVoices))

/-- A note is where the routing puts it. -/
def Placed : MidiRouting → ℕ → SoundingNote → Prop
  | .single, startChannel, item =>
      item.voiceId = unassignedVoiceId ∧ item.channel = startChannel
  | .perVoice, startChannel, item =>
      item.voiceId < maxVoices ∧ item.channel = laneChannel startChannel item.voiceId

/-- What tells two notes apart: the note in single routing, the string otherwise. -/
def SoundingNote.identity (item : SoundingNote) : MidiRouting → ℕ
  | .single => item.note
  | .perVoice => item.voiceId

/-- Every note of the ledger is where the routing puts it, and has an identity of its own. From
this it follows that channels and note ids tell the notes apart. -/
structure Identified (routing : MidiRouting) (startChannel : ℕ) (ledger : GeneratedNoteLedger) :
    Prop where
  placed : ∀ slot item, (ledger.voices slot).sounding = some item →
    Placed routing startChannel item
  apart : ∀ first second item other, (ledger.voices first).sounding = some item →
    (ledger.voices second).sounding = some other →
    item.identity routing = other.identity routing → first = second

/-- Every slot keeps its note or gives it up. -/
def Shrinks (before after : GeneratedNoteLedger) : Prop :=
  ∀ slot, (after.voices slot).sounding = none ∨
    (after.voices slot).sounding = (before.voices slot).sounding

variable {routing : MidiRouting} {startChannel : ℕ} {ledger before after : GeneratedNoteLedger}

namespace Shrinks

variable {middle : GeneratedNoteLedger}

/-- A change that leaves the slots alone loses nothing and adds nothing. -/
theorem of_voices (same : after.voices = before.voices) : Shrinks before after := by
  intro slot
  rw [same]
  exact .inr rfl

theorem refl (ledger : GeneratedNoteLedger) : Shrinks ledger ledger := of_voices rfl

theorem trans (first : Shrinks before middle) (second : Shrinks middle after) :
    Shrinks before after := by
  intro slot
  rcases second slot with gone | kept
  · exact .inl gone
  · rw [kept]
    exact first slot

/-- A release that is requested only marks slots. -/
theorem requestReleaseAll : Shrinks ledger ledger.requestReleaseAll := by
  intro slot
  refine .inr ?_
  unfold ActiveVoice.sounding ActiveVoice.occupied GeneratedNoteLedger.requestReleaseAll
  dsimp only
  rw [← Bool.or_assoc, Bool.or_self]

/-- The latch of the output only marks slots. -/
theorem enterBlocked : Shrinks ledger ledger.enterBlocked := by
  have marked := @requestReleaseAll
    { ledger with outputBlocked := true, cleanupComplete := false }
  exact marked

/-- A slot that is cleared sounds no more. -/
theorem clearVoice (slot : Fin maxVoices) : Shrinks ledger (ledger.clearVoice slot) := by
  intro other
  unfold GeneratedNoteLedger.clearVoice
  dsimp only
  by_cases same : other = slot
  · rw [same, Function.update_self]
    exact .inl rfl
  · rw [Function.update_of_ne same]
    exact .inr rfl

/-- An occupied slot that is marked keeps its note, its lane and its channel. -/
theorem markPending {slot : Fin maxVoices} (occupied : (ledger.voices slot).occupied = true) :
    Shrinks ledger (Delivery.markPending slot ledger) := by
  intro other
  unfold Delivery.markPending
  dsimp only
  by_cases same : other = slot
  · rw [same, Function.update_self]
    refine .inr ?_
    unfold ActiveVoice.sounding
    rw [occupied]
    unfold ActiveVoice.occupied
    rw [Bool.or_true]
  · rw [Function.update_of_ne same]
    exact .inr rfl

/-- The storage of the queue has nothing to do with the slots. -/
theorem allocateStorage (maxFrames : ℕ) (granted : Bool) :
    Shrinks ledger (ledger.allocateStorage maxFrames granted).2 := by
  dsimp only [GeneratedNoteLedger.allocateStorage]
  split_ifs <;> exact of_voices rfl

/-- A queued transition does not touch the slots, though it may latch the output. -/
theorem queueTransition (transition : VoiceTransition) (frames : ℕ) :
    Shrinks ledger (ledger.queueTransition transition frames).2 := by
  unfold GeneratedNoteLedger.queueTransition
  split_ifs
  · exact of_voices rfl
  · exact of_voices rfl

/-- The releases that are queued for a panic do not touch the slots either. -/
theorem queueReleasesOf (sampleOffset frames : ℕ) (slots : List (Fin maxVoices)) :
    ∀ (sequence : ℕ) (progress : Bool × GeneratedNoteLedger), Shrinks progress.2
      (GeneratedNoteLedger.queueReleasesOf sampleOffset frames slots sequence progress).2 := by
  induction slots with
  | nil =>
      intro sequence progress
      exact refl progress.2
  | cons slot slots ih =>
      rintro sequence ⟨complete, ledger⟩
      rw [GeneratedNoteLedger.queueReleasesOf]
      dsimp only
      split_ifs
      · exact (queueTransition _ _).trans (ih (sequence + 1) _)
      · exact ih sequence _

/-- The end of a hold changes flags and counters only. -/
theorem finishHold (request : DeliveryRequest) : Shrinks ledger (ledger.finishHold request) := by
  unfold GeneratedNoteLedger.finishHold
  split_ifs <;> exact of_voices rfl

end Shrinks

/-- Without a note there is nothing to tell apart. -/
theorem identified_of_empty (empty : ∀ slot, (ledger.voices slot).occupied = false) :
    Identified routing startChannel ledger where
  placed slot item sounding := by
    rw [sounding_eq_none.mpr (empty slot)] at sounding
    cases sounding
  apart first second item other sounding := by
    rw [sounding_eq_none.mpr (empty first)] at sounding
    cases sounding

namespace Identified

/-- Giving up notes keeps the others apart. -/
theorem shrink (identified : Identified routing startChannel before)
    (shrinks : Shrinks before after) : Identified routing startChannel after := by
  have kept : ∀ slot item, (after.voices slot).sounding = some item →
      (before.voices slot).sounding = some item := by
    intro slot item sounding
    rcases shrinks slot with gone | same
    · rw [gone] at sounding
      cases sounding
    · rw [← same]
      exact sounding
  refine ⟨fun slot item sounding => identified.placed slot item (kept slot item sounding), ?_⟩
  intro first second item other here there
  exact identified.apart first second item other (kept first item here) (kept second other there)

/-- A note with an identity of its own takes a free slot. -/
theorem occupy (identified : Identified routing startChannel ledger) {slot : Fin maxVoices}
    {event : VoiceTransition} {channel : ℕ}
    (placed : Placed routing startChannel ⟨event.note, event.voiceId, channel⟩)
    (fresh : ∀ other item, (ledger.voices other).sounding = some item →
      item.identity routing ≠
        SoundingNote.identity ⟨event.note, event.voiceId, channel⟩ routing) :
    Identified routing startChannel (Delivery.occupyVoice slot event channel ledger) := by
  have cases : ∀ other item,
      ((Delivery.occupyVoice slot event channel ledger).voices other).sounding = some item →
        other = slot ∧ item = ⟨event.note, event.voiceId, channel⟩ ∨
          other ≠ slot ∧ (ledger.voices other).sounding = some item := by
    intro other item sounding
    unfold Delivery.occupyVoice at sounding
    dsimp only at sounding
    by_cases same : other = slot
    · rw [same, Function.update_self] at sounding
      exact .inl ⟨same, (sounding_eq_some.mp sounding).2⟩
    · rw [Function.update_of_ne same] at sounding
      exact .inr ⟨same, sounding⟩
  constructor
  · intro other item sounding
    rcases cases other item sounding with ⟨-, rfl⟩ | ⟨-, old⟩
    · exact placed
    · exact identified.placed other item old
  · intro first second item other here there same
    rcases cases first item here with ⟨rfl, rfl⟩ | ⟨-, old⟩
    · rcases cases second other there with ⟨rfl, -⟩ | ⟨-, old⟩
      · rfl
      · exact absurd same.symm (fresh second other old)
    · rcases cases second other there with ⟨rfl, rfl⟩ | ⟨-, older⟩
      · exact absurd same (fresh first item old)
      · exact identified.apart first second item other old older same

end Identified

namespace GeneratedNoteLedger

/-- A channel that is found is where the routing puts the note. -/
theorem allocateChannel_placed {event : VoiceTransition} {channel : ℕ}
    (assigned : AssignedFor routing event)
    (found : ledger.allocateChannel routing startChannel event = channel) (some : channel ≠ 0) :
    Placed routing startChannel ⟨event.note, event.voiceId, channel⟩ := by
  unfold allocateChannel at found
  by_cases invalid : startChannel < 1 ∨ startChannel > 16
  · rw [if_pos invalid] at found
    exact absurd found.symm some
  · rw [if_neg invalid] at found
    cases routing with
    | single => exact ⟨assigned, found.symm⟩
    | perVoice =>
        have lane : event.voiceId < maxVoices := assigned
        dsimp only at found
        rw [if_pos lane] at found
        split_ifs at found with used
        · exact absurd found.symm some
        · exact ⟨lane, found.symm⟩

/-- A note-on that is admitted has an identity that no other note has. -/
theorem fresh_of_admitted {event : VoiceTransition}
    (identified : Identified routing startChannel ledger) (assigned : AssignedFor routing event)
    (admitted : Delivery.identityInUse ledger event = false) (channel : ℕ) (slot : Fin maxVoices)
    (item : SoundingNote) (sounding : (ledger.voices slot).sounding = some item) :
    item.identity routing ≠ SoundingNote.identity ⟨event.note, event.voiceId, channel⟩ routing := by
  have placed := identified.placed slot item sounding
  obtain ⟨occupied, rfl⟩ := sounding_eq_some.mp sounding
  unfold Delivery.identityInUse at admitted
  rw [Bool.or_eq_false_iff] at admitted
  cases routing with
  | single =>
      intro same
      have none := firstSlot_eq_none.mp (Option.not_isSome_iff_eq_none.mp
        (Bool.eq_false_iff.mp admitted.1)) slot
      have unassigned : ¬ event.voiceId < maxVoices := by
        rw [show event.voiceId = unassignedVoiceId from assigned]
        decide
      have note : (ledger.voices slot).note = event.note := same
      have voice : (ledger.voices slot).voiceId = unassignedVoiceId := placed.1
      unfold holds at none
      rw [occupied, note, voice, if_neg unassigned] at none
      simp at none
  | perVoice =>
      intro same
      have lane : event.voiceId < maxVoices := assigned
      rw [decide_eq_true lane, Bool.true_and, List.any_eq_false] at admitted
      refine admitted.2 slot (List.mem_finRange slot) ?_
      have voice : (ledger.voices slot).voiceId = event.voiceId := same
      rw [occupied, voice, decide_eq_true rfl]
      rfl

end GeneratedNoteLedger

namespace Delivery

variable {delivery : Delivery} {request : DeliveryRequest} {sink : NoteEventSink}

/-- Releases that are tried again clear slots, and never fill one. -/
theorem retryReleases_shrinks (pending : List (ℕ × Fin maxVoices)) :
    Shrinks delivery.ledger (retryReleases sink pending delivery).2.ledger := by
  induction pending generalizing delivery with
  | nil => exact Shrinks.refl _
  | cons next pending ih =>
      obtain ⟨note, slot⟩ := next
      rw [retryReleases]
      split_ifs
      · exact ih
      · split
        · next pushed =>
            have same := push_ledger pushed
            rw [← same]
            exact Shrinks.enterBlocked
        · next pushed =>
            have same := push_ledger pushed
            rw [← same]
            exact (Shrinks.clearVoice slot).trans ih

/-- The whole retry fills no slot. -/
theorem retryPendingReleases_shrinks :
    Shrinks delivery.ledger (delivery.retryPendingReleases sink).2.ledger := by
  unfold retryPendingReleases
  split_ifs
  · exact Shrinks.of_voices rfl
  · have released := @retryReleases_shrinks delivery sink retryOrder
    split
    · next retried =>
        rw [retried] at released
        exact released
    · next retried =>
        rw [retried] at released
        exact released

/-- A delivered note-off clears its slot, and fills none. -/
theorem deliverNoteOff_shrinks (event : VoiceTransition) :
    Shrinks delivery.ledger (delivery.deliverNoteOff sink event).2.ledger := by
  unfold deliverNoteOff
  split
  · exact Shrinks.enterBlocked
  · next slot found =>
      have held := firstSlot_spec found
      unfold holds at held
      rw [Bool.and_eq_true, Bool.and_eq_true] at held
      split
      · next pushed =>
          have same := push_ledger pushed
          rw [← same] at held ⊢
          exact (Shrinks.markPending held.1.1).trans Shrinks.enterBlocked
      · next pushed =>
          have same := push_ledger pushed
          rw [← same]
          exact Shrinks.clearVoice slot

/-- An admitted note-on has an identity of its own. -/
theorem deliverNoteOn_identified {event : VoiceTransition}
    (identified : Identified request.routing request.startChannel delivery.ledger)
    (assigned : AssignedFor request.routing event) :
    Identified request.routing request.startChannel
      (delivery.deliverNoteOn request event).2.ledger := by
  unfold deliverNoteOn
  split_ifs with held used full
  · exact identified
  · exact identified.shrink Shrinks.enterBlocked
  · exact identified.shrink Shrinks.enterBlocked
  · dsimp only
    split
    · exact identified.shrink Shrinks.enterBlocked
    · split_ifs with silent
      · exact identified.shrink Shrinks.enterBlocked
      · split
        · next pushed =>
            have same := push_ledger pushed
            rw [← same] at identified
            exact identified.shrink Shrinks.enterBlocked
        · next slot free _ _ pushed =>
            have admitted : identityInUse delivery.ledger event = false := Bool.eq_false_iff.mpr used
            have placed := allocateChannel_placed assigned rfl silent
            have fresh := fresh_of_admitted identified assigned admitted
              (delivery.ledger.allocateChannel request.routing request.startChannel event)
            have same := push_ledger pushed
            rw [← same] at identified fresh
            exact identified.occupy placed fresh

/-- One event keeps the identities apart: a note-off fills no slot, and a note-on fills the one of
its lane, under a channel that is the lane's own. -/
theorem deliverEvent_identified {event : VoiceTransition}
    (identified : Identified request.routing request.startChannel delivery.ledger)
    (assigned : event.kind = .noteOn → AssignedFor request.routing event) :
    Identified request.routing request.startChannel
      (delivery.deliverEvent request event).2.ledger := by
  unfold deliverEvent
  split_ifs
  · exact identified
  · cases kind : event.kind with
    | noteOff => exact identified.shrink (deliverNoteOff_shrinks event)
    | noteOn => exact deliverNoteOn_identified identified (assigned kind)

/-- The loop over the events keeps the identities apart, by induction on the events. -/
theorem deliverEvents_identified {events : List VoiceTransition}
    (identified : Identified request.routing request.startChannel delivery.ledger)
    (assigned : ∀ event ∈ events, event.kind = .noteOn → AssignedFor request.routing event) :
    Identified request.routing request.startChannel
      (deliverEvents request events delivery).ledger := by
  induction events generalizing delivery with
  | nil => exact identified
  | cons event events ih =>
      obtain ⟨here, later⟩ := List.forall_mem_cons.mp assigned
      have step := deliverEvent_identified identified here
      unfold deliverEvents
      generalize delivery.deliverEvent request event = outcome at step ⊢
      obtain ⟨goes, next⟩ := outcome
      cases goes with
      | true => exact ih step later
      | false => exact step

/-- A delivery keeps the identities apart. The retries before the loop and the hold after it fill
no slot. -/
theorem deliverQueued_identified
    (identified : Identified request.routing request.startChannel delivery.ledger)
    (assigned : ∀ event ∈ delivery.ledger.queue, event.kind = .noteOn →
      AssignedFor request.routing event) :
    Identified request.routing request.startChannel (delivery.deliverQueued request).2.ledger := by
  rcases deliverQueued_cases delivery request with refused | ended
  · rw [refused]
    exact identified.shrink (Shrinks.of_voices rfl)
  · rw [ended]
    refine Identified.shrink ?_ (Shrinks.finishHold request)
    unfold beforeHold
    have checked : Identified request.routing request.startChannel
        (delivery.mapLedger (checkRequest request)).ledger :=
      identified.shrink (Shrinks.of_voices rfl)
    dsimp only
    split_ifs
    · exact deliverEvents_identified checked assigned
    · exact checked

/-- Releases that are tried again do not touch the queue. -/
theorem retryReleases_queue (pending : List (ℕ × Fin maxVoices)) :
    (retryReleases sink pending delivery).2.ledger.queue = delivery.ledger.queue := by
  induction pending generalizing delivery with
  | nil => rfl
  | cons next pending ih =>
      obtain ⟨note, slot⟩ := next
      rw [retryReleases]
      split_ifs
      · exact ih
      · split
        · next rejected pushed =>
            have same : rejected.ledger.queue = delivery.ledger.queue :=
              congrArg queue (push_ledger pushed)
            exact same
        · next accepted pushed =>
            have same : accepted.ledger.queue = delivery.ledger.queue :=
              congrArg queue (push_ledger pushed)
            exact ih.trans same

/-- The retry leaves the queue as it is, so that the loop after it sees what was queued. -/
theorem retryPendingReleases_queue :
    (delivery.retryPendingReleases sink).2.ledger.queue = delivery.ledger.queue := by
  unfold retryPendingReleases
  split_ifs
  · rfl
  · have same := @retryReleases_queue delivery sink retryOrder
    split
    · next retried =>
        rw [retried] at same
        exact same
    · next retried =>
        rw [retried] at same
        exact same

end Delivery

namespace LedgerOperation

/-- The request of an operation that delivers. -/
def request : LedgerOperation → Option DeliveryRequest
  | deliverQueued request | deliver request => some request
  | _ => none

end LedgerOperation

namespace GeneratedNoteLedger

/-- Every operation of the ledger keeps its gates. -/
theorem operate_gated (gated : Gated ledger) (operation : LedgerOperation) :
    Gated (ledger.operate operation).ledger := by
  have same : ledger.operate operation = ledger.call (.operation operation) := rfl
  cases recovers : LedgerCall.recovers (.operation operation) with
  | true =>
      cases operation with
      | requestRecovery => exact ⟨gated.notes, gated.queued, gated.cleaned, gated.blocked⟩
      | _ => cases recovers
  | false =>
      cases delivers : LedgerCall.delivers (.operation operation) with
      | none =>
          rw [same]
          exact (call_guards rfl recovers delivers).gated gated
      | some request =>
          rw [same]
          rcases call_delivers delivers gated with guards | ⟨guards, ended⟩
          · exact guards.gated gated
          · rw [ended]
            exact finishHold_gated (guards.gated gated)

/-- An operation that does not deliver takes no note. -/
theorem operate_shrinks {operation : LedgerOperation} (silent : operation.request = none) :
    Shrinks ledger (ledger.operate operation).ledger := by
  cases operation with
  | activatePreservingPending maxFrames granted =>
      have reset : Shrinks ledger ledger.resetStorage := Shrinks.of_voices rfl
      exact reset.trans (Shrinks.allocateStorage maxFrames granted)
  | beginBlock => exact Shrinks.of_voices rfl
  | queueTransition transition frames => exact Shrinks.queueTransition transition frames
  | queueActiveReleases sampleOffset frames =>
      exact Shrinks.queueReleasesOf sampleOffset frames _ 0 (true, ledger)
  | requestReleaseAll => exact Shrinks.requestReleaseAll
  | reportOutputFailure => exact Shrinks.enterBlocked
  | requestRecovery => exact Shrinks.of_voices rfl
  | retryPendingReleases sink =>
      have retried := @Delivery.retryPendingReleases_shrinks { ledger } sink
      exact retried
  | deliverQueued request => cases silent
  | deliver request => cases silent
  | releaseStoragePreservingPending =>
      have reset : Shrinks ledger.requestReleaseAll ledger.requestReleaseAll.resetStorage :=
        Shrinks.of_voices rfl
      exact Shrinks.requestReleaseAll.trans reset

/-- A delivery for the routing of the notes keeps them apart. -/
theorem operate_identified {operation : LedgerOperation} {request : DeliveryRequest}
    (delivers : operation.request = some request)
    (identified : Identified request.routing request.startChannel ledger)
    (assigned : ∀ event ∈ ledger.queue, event.kind = .noteOn →
      AssignedFor request.routing event) :
    Identified request.routing request.startChannel (ledger.operate operation).ledger := by
  cases operation with
  | deliverQueued other =>
      obtain rfl := Option.some.inj delivers
      exact Delivery.deliverQueued_identified identified assigned
  | deliver other =>
      obtain rfl := Option.some.inj delivers
      have retried := @Delivery.retryPendingReleases_shrinks { ledger } other.sink
      have queue := @Delivery.retryPendingReleases_queue { ledger } other.sink
      refine Delivery.deliverQueued_identified (identified.shrink retried) ?_
      rw [queue]
      exact assigned
  | _ => cases delivers

end GeneratedNoteLedger

/-- The ledgers of runs in which voices name their strings exactly in per-voice routing, and
routing and start channel change only while no slot is occupied. -/
inductive Routed : MidiRouting → ℕ → GeneratedNoteLedger → Prop
  | start (before : GeneratedNoteLedger) (maxFrames : ℕ) (granted : Bool)
      (routing : MidiRouting) (startChannel : ℕ) :
      Routed routing startChannel (before.activate maxFrames granted).2
  | quiet {routing : MidiRouting} {startChannel : ℕ} {ledger : GeneratedNoteLedger}
      (earlier : Routed routing startChannel ledger) (operation : LedgerOperation)
      (silent : operation.request = none) :
      Routed routing startChannel (ledger.operate operation).ledger
  | delivered {routing : MidiRouting} {startChannel : ℕ} {ledger : GeneratedNoteLedger}
      (earlier : Routed routing startChannel ledger) (operation : LedgerOperation)
      {request : DeliveryRequest} (delivers : operation.request = some request)
      (assigned : ∀ event ∈ ledger.queue, event.kind = .noteOn →
        AssignedFor request.routing event)
      (kept : request.routing = routing ∧ request.startChannel = startChannel ∨
        ∀ slot, (ledger.voices slot).occupied = false) :
      Routed request.routing request.startChannel (ledger.operate operation).ledger

namespace Routed

/-- Along a run every note is where the current routing puts it. -/
theorem identified (routed : Routed routing startChannel ledger) :
    Gated ledger ∧ Identified routing startChannel ledger := by
  induction routed with
  | start before maxFrames granted routing startChannel =>
      have started : Guards {} ((deactivate before).allocateStorage maxFrames granted).2 :=
        Guards.allocateStorage maxFrames granted
      have empty : Identified routing startChannel {} := identified_of_empty fun _ => rfl
      have shrinks : Shrinks {} ((deactivate before).allocateStorage maxFrames granted).2 :=
        Shrinks.allocateStorage maxFrames granted
      exact ⟨started.gated gated_reset, empty.shrink shrinks⟩
  | quiet earlier operation silent ih =>
      exact ⟨operate_gated ih.1 operation, ih.2.shrink (operate_shrinks silent)⟩
  | delivered earlier operation delivers assigned kept ih =>
      refine ⟨operate_gated ih.1 operation, operate_identified delivers ?_ assigned⟩
      rcases kept with ⟨rfl, rfl⟩ | empty
      · exact ih.2
      · exact identified_of_empty empty

end Routed

/-- Whatever the lane and the start channel are, the channel is one of the sixteen. -/
theorem laneChannel_range (startChannel lane : ℕ) :
    1 ≤ laneChannel startChannel lane ∧ laneChannel startChannel lane ≤ 16 := by
  unfold laneChannel
  omega

/-- The channels of two lanes differ, also when they wrap around. -/
theorem laneChannel_injective {startChannel first second : ℕ} (one : first < maxVoices)
    (other : second < maxVoices)
    (same : laneChannel startChannel first = laneChannel startChannel second) : first = second := by
  unfold laneChannel at same
  unfold maxVoices at one other
  omega

/-- Two sounding notes of one kind, with or without a lane, share an id only if they are the same
note, and on the same lane if they have one. -/
theorem vst3NoteId_injective {firstVoice secondVoice first second : ℕ} (low : first ≤ 127)
    (high : second ≤ 127) (kinds : firstVoice < maxVoices ↔ secondVoice < maxVoices)
    (same : vst3NoteId firstVoice first = vst3NoteId secondVoice second) :
    first = second ∧ (firstVoice < maxVoices → firstVoice = secondVoice) := by
  unfold vst3NoteId at same
  split_ifs at same
  all_goals omega

/-- In a run with consistent routing no two notes share a channel and a pitch, or a note id; and a
string that is not in use gets a channel of its own. -/
theorem Routed.distinct_identities (routed : Routed routing startChannel ledger) :
    (∀ first second, first ≠ second → (ledger.voices first).occupied = true →
      (ledger.voices second).occupied = true →
      ((ledger.voices first).channel, (ledger.voices first).note) ≠
        ((ledger.voices second).channel, (ledger.voices second).note)) ∧
    (∀ first second, first ≠ second → (ledger.voices first).occupied = true →
      (ledger.voices second).occupied = true →
      vst3NoteId (ledger.voices first).voiceId (ledger.voices first).note ≠
        vst3NoteId (ledger.voices second).voiceId (ledger.voices second).note) ∧
    (∀ request : DeliveryRequest, request.routing = .perVoice → 1 ≤ request.startChannel →
      request.startChannel ≤ 16 →
      (request.routing = routing ∧ request.startChannel = startChannel ∨
        ∀ slot, (ledger.voices slot).occupied = false) →
      ∀ event : VoiceTransition, event.voiceId < maxVoices →
        (∀ slot, (ledger.voices slot).occupied = true →
          (ledger.voices slot).voiceId ≠ event.voiceId) →
        ledger.allocateChannel request.routing request.startChannel event =
          laneChannel request.startChannel event.voiceId) ∧
    (∀ start lane, 1 ≤ laneChannel start lane ∧ laneChannel start lane ≤ 16) ∧
    ∀ start first second, first < maxVoices → second < maxVoices → first ≠ second →
      laneChannel start first ≠ laneChannel start second := by
  obtain ⟨gated, identified⟩ := routed.identified
  have sounding : ∀ slot, (ledger.voices slot).occupied = true →
      (ledger.voices slot).sounding = some ⟨(ledger.voices slot).note,
        (ledger.voices slot).voiceId, (ledger.voices slot).channel⟩ := by
    intro slot occupied
    exact sounding_eq_some.mpr ⟨occupied, rfl⟩
  refine ⟨?_, ?_, ?_, laneChannel_range, fun start first second one other different same =>
    different (laneChannel_injective one other same)⟩
  · intro first second different one other same
    obtain ⟨channel, note⟩ := Prod.mk.inj same
    refine different (identified.apart first second _ _ (sounding first one)
      (sounding second other) ?_)
    have here := identified.placed first _ (sounding first one)
    have there := identified.placed second _ (sounding second other)
    cases routing with
    | single => exact note
    | perVoice =>
        exact laneChannel_injective here.1 there.1 ((here.2.symm.trans channel).trans there.2)
  · intro first second different one other same
    refine different (identified.apart first second _ _ (sounding first one)
      (sounding second other) ?_)
    have here := identified.placed first _ (sounding first one)
    have there := identified.placed second _ (sounding second other)
    have low := gated.notes first one
    have high := gated.notes second other
    cases routing with
    | single =>
        have kinds : (ledger.voices first).voiceId < maxVoices ↔
            (ledger.voices second).voiceId < maxVoices := by
          rw [show (ledger.voices first).voiceId = unassignedVoiceId from here.1,
            show (ledger.voices second).voiceId = unassignedVoiceId from there.1]
        exact (vst3NoteId_injective low high kinds same).1
    | perVoice =>
        have kinds : (ledger.voices first).voiceId < maxVoices ↔
            (ledger.voices second).voiceId < maxVoices := ⟨fun _ => there.1, fun _ => here.1⟩
        exact (vst3NoteId_injective low high kinds same).2 here.1
  · intro request perVoice low high kept event lane unused
    have current : Identified request.routing request.startChannel ledger := by
      rcases kept with ⟨rfl, rfl⟩ | empty
      · exact identified
      · exact identified_of_empty empty
    rw [perVoice] at current ⊢
    have free : ledger.channelUsed (laneChannel request.startChannel event.voiceId) = false := by
      unfold channelUsed
      rw [List.any_eq_false]
      intro slot _ used
      rw [Bool.and_eq_true, decide_eq_true_eq] at used
      have placed := current.placed slot _ (sounding slot used.1)
      exact unused slot used.1 (@laneChannel_injective request.startChannel _ _ placed.1 lane
        (placed.2.symm.trans used.2))
    unfold allocateChannel
    have valid : ¬(request.startChannel < 1 ∨ request.startChannel > 16) := by omega
    rw [if_neg valid]
    dsimp only
    rw [if_pos lane, free]
    rfl

/-- A note on one string of a per-voice routing. -/
def laneNoteOn (voiceId : ℕ) : VoiceTransition where
  sampleOffset := 0
  kind := .noteOn
  note := 60
  velocity := 100
  sequence := voiceId
  voiceId := voiceId

/-- A per-voice delivery whose lanes wrap around. -/
def wrappingRequest : DeliveryRequest where
  frames := 64
  sink := some fun _ _ _ => true
  selectedPeak := some 0
  finiteInput := true
  supportedLayout := true
  routing := .perVoice
  startChannel := 14

/-- The same pitch on two strings sounds on two channels, and a third string wraps around. -/
theorem distinct_identities_wrapping :
    let queued := (((({} : GeneratedNoteLedger).activate 64 true).2.queueTransition (laneNoteOn 1)
      64).2.queueTransition (laneNoteOn 2) 64).2
    let ledger := (queued.operate (.deliverQueued wrappingRequest)).ledger
    ((List.finRange maxVoices).filterMap fun slot => (ledger.voices slot).sounding) =
        [⟨60, 1, 15⟩, ⟨60, 2, 16⟩] ∧
      (∀ first second, first ≠ second → (ledger.voices first).occupied = true →
        (ledger.voices second).occupied = true →
        ((ledger.voices first).channel, (ledger.voices first).note) ≠
          ((ledger.voices second).channel, (ledger.voices second).note)) ∧
      ledger.allocateChannel .perVoice 14 (laneNoteOn 3) = 1 := by
  intro queued ledger
  have routed : Routed .perVoice 14 ledger :=
    .delivered (((Routed.start {} 64 true .perVoice 14).quiet
      (.queueTransition (laneNoteOn 1) 64) rfl).quiet (.queueTransition (laneNoteOn 2) 64) rfl)
      (.deliverQueued wrappingRequest) rfl (by decide) (.inl ⟨rfl, rfl⟩)
  obtain ⟨distinct, -, lanes, -⟩ := routed.distinct_identities
  exact ⟨by decide, distinct, lanes wrappingRequest rfl (by decide) (by decide)
    (.inl ⟨rfl, rfl⟩) (laneNoteOn 3) (by decide) (by decide)⟩

end M3Midi
