import M3Midi.Clap.PipelineMerge
import M3Midi.Ledger.PanicDelivery

/-! # A panic within a block

A panic queues the releases of the active voices behind what the block has queued. With a
host that accepts everything, the call after it releases each sounding note once and
leaves the output open exactly when the queue holds no note-off of the block, no release
waits from before, and the block has room for the releases
(`M3Midi.MidiPipeline.panic_releases_iff`).
-/

namespace M3Midi

open Foundation GeneratedNoteLedger

/-- A sounding note as the host tells it: its channel and its pitch. -/
def SoundingNote.atHost (item : SoundingNote) : ℕ × ℕ := (item.channel, item.note)

/-- The channel and the pitch of a note-off message. -/
def HostEvent.released : HostEvent → Option (ℕ × ℕ)
  | midi _ status note _ => if status / 16 = 8 then some (status % 16 + 1, note) else none
  | input _ _ => none

/-- The notes that the accepted messages of a call release. -/
def releasedNotes (log : List HostPush) : Multiset (ℕ × ℕ) :=
  ((acceptedEvents log).filterMap HostEvent.released : List (ℕ × ℕ))

/-- A generated note-off releases its note at the host. -/
theorem generatedMidi_released {push : Push} (noteOff : push.transition.kind = .noteOff)
    (inside : 1 ≤ push.channel ∧ push.channel ≤ 16) :
    (generatedMidi push.transition push.channel).released = some push.item.atHost := by
  have status : (0x80 + (push.channel - 1)) / 16 = 8 := by omega
  have channel : (0x80 + (push.channel - 1)) % 16 + 1 = push.channel := by omega
  rw [generatedMidi, noteOff]
  dsimp only
  rw [HostEvent.released, if_pos status, channel]
  rfl

/-- The inputs release no generated note. -/
theorem releasedNotes_flush {call : MidiCall} {due : ℕ → Bool} (context : DeliveryContext) :
    releasedNotes (flushInputs call due context.remaining context).2.log =
      releasedNotes context.log := by
  obtain ⟨-, own, -, -, -, events⟩ := InOrder.taken
    (@flushInputs_flushed call due context.remaining context)
    (flushInputs_progress context.remaining context).logged
  have inputs : (own.map inputEvent).filterMap HostEvent.released = [] := by
    rw [List.filterMap_map]
    exact List.filterMap_eq_nil_iff.mpr fun item _ => rfl
  rw [releasedNotes, events, List.filterMap_append, inputs, List.append_nil]
  rfl

/-- A host that accepts everything gets the releases that the ledger pushes. -/
theorem releasedNotes_replay {call : MidiCall} (accepts : call.output = accepting)
    {pushed : List Push} (context : DeliveryContext)
    (releases : ∀ push ∈ pushed, push.transition.kind = .noteOff ∧
      1 ≤ push.channel ∧ push.channel ≤ 16) :
    releasedNotes (replayPushes call context pushed).log =
      releasedNotes context.log +
        ((pushed.map fun push => push.item.atHost : List (ℕ × ℕ)) : Multiset (ℕ × ℕ)) := by
  induction pushed generalizing context with
  | nil => exact (add_zero _).symm
  | cons push pushed ih =>
      obtain ⟨⟨noteOff, inside⟩, others⟩ := List.forall_mem_cons.mp releases
      have flushed := @releasedNotes_flush call (dueBefore push.transition) context
      have next := congrArg Prod.snd
        (pushGenerated_accepting accepts context push.transition push.channel)
      change releasedNotes (replayPushes call
        (pushGenerated call context push.transition push.channel).2 pushed).log = _
      rw [ih _ others, next]
      dsimp only
      rw [releasedNotes, acceptedEvents_append, acceptedEvents_singleton, if_pos rfl,
        List.filterMap_append, ← Multiset.coe_add]
      rw [releasedNotes] at flushed
      rw [flushed, List.filterMap_cons, generatedMidi_released noteOff inside, List.filterMap_nil,
        List.map_cons, add_assoc, Multiset.coe_add]
      rfl

/-! ## What sounds -/

/-- The pushes of a log are on MIDI channels, and its notes are notes of a string or of none. -/
def WellSent (log : List Push) : Prop :=
  ∀ push ∈ log, (1 ≤ push.channel ∧ push.channel ≤ 16) ∧
    (push.transition.kind = .noteOn → push.transition.note ≤ 127 ∧
      (push.transition.voiceId = unassignedVoiceId ∨ push.transition.voiceId < maxVoices))

/-- What sounds after well-sent pushes can be released. -/
theorem sendable_of_wellSent {log : List Push} {ledger : GeneratedNoteLedger}
    (accounts : Accounts log ledger) (sent : WellSent log) : Sendable ledger := by
  intro item member
  have balance := held_add_opened_of_replay accounts.replayed
  rw [zero_add] at balance
  have opened : item ∈ openedItems (marks log) := by
    rw [balance]
    exact Multiset.mem_add.mpr (.inr member)
  obtain ⟨mark, marked, opens⟩ := List.mem_filterMap.mp (Multiset.mem_coe.mp opened)
  obtain ⟨push, inLog, its⟩ := List.mem_filterMap.mp marked
  obtain ⟨channel, notes⟩ := sent push inLog
  unfold Push.mark at its
  dsimp only at its
  split_ifs at its
  cases kind : push.transition.kind with
  | noteOn =>
      rw [kind] at its
      obtain rfl := Option.some.inj its
      obtain rfl := Option.some.inj opens
      exact ⟨channel, notes kind⟩
  | noteOff =>
      rw [kind] at its
      obtain rfl := Option.some.inj its
      cases opens

namespace MidiPipeline

variable {pipeline : MidiPipeline} {call : MidiCall}

/-- A log of well-sent pushes accounts for what sounds. -/
def Accounted (pipeline : MidiPipeline) : Prop :=
  ∃ log, Accounts log pipeline.ledger ∧ WellSent log

/-- A delivery keeps the account with the host, on the channels of the notes. -/
theorem deliver_wellSent {log : List Push} (accounts : Accounts log pipeline.ledger)
    (gated : Gated pipeline.ledger) (sent : WellSent log) :
    ∃ later, Accounts later (pipeline.deliver call).ledger ∧ WellSent later := by
  have entered : Delivery.Accounts log { ledger := pipeline.ledger } := by
    rwa [Delivery.Accounts, List.append_nil]
  have recorded := @Delivery.deliver_recorded (pipeline.request call) _ pipeline.ledger rfl
  obtain ⟨retried, queued, pushed, releases, inQueue, -, -⟩ :=
    Delivery.deliver_pushes pipeline.ledger (pipeline.request call)
  refine ⟨_, Delivery.deliver_accounts entered (pipeline.request call), ?_⟩
  refine List.forall_mem_append.mpr ⟨sent, fun push member => ⟨recorded.inside push member, ?_⟩⟩
  intro noteOn
  rw [pushed] at member
  rcases List.mem_append.mp member with early | late
  · rw [(releases push early).2] at noteOn
    cases noteOn
  · have event := inQueue.subset (List.mem_map_of_mem late)
    exact ⟨gated.queued _ event, accounts.queue_voices _ event⟩

/-- Every reachable pipeline accounts for what the host has been sent. By induction on the
operations. A refused release stays in its slot, and on the account. -/
theorem Reachable.accounted (reached : Reachable pipeline) : Accounted pipeline := by
  have empty : WellSent [] := List.forall_mem_nil _
  induction reached with
  | initial => exact ⟨[], activate_accounts {} 0 false, empty⟩
  | @operate pipeline reached operation ih =>
      obtain ⟨log, accounts, sent⟩ := ih
      cases operation with
      | activate maxFrames granted => exact ⟨[], activate_accounts {} maxFrames granted, empty⟩
      | deactivate => exact ⟨[], activate_accounts {} 0 false, empty⟩
      | beginBlock =>
          exact ⟨log, accounts.of_same_notes (fun _ => rfl) accounts.pending_active rfl
            fun _ member => absurd member List.not_mem_nil, sent⟩
      | queueTransition transition framesCount =>
          exact ⟨log, queueTransition_accounts accounts transition framesCount, sent⟩
      | requestPanic offset framesCount =>
          have queued := panicked_accounts accounts offset framesCount
          refine ⟨log, ?_, sent⟩
          rw [MidiPipeline.operate, requestPanic]
          dsimp only
          split_ifs
          · exact queued
          · exact enterBlocked_accounts queued
      | requestReset =>
          exact ⟨log, requestRecovery_accounts (requestReleaseAll_accounts accounts), sent⟩
      | process call =>
          cases refused : refuses call with
          | true =>
              rw [MidiPipeline.operate, process, if_pos refused]
              exact ⟨log, accounts, sent⟩
          | false =>
              obtain ⟨later, delivered, laterSent⟩ :=
                @deliver_wellSent pipeline call log accounts reached.guarded.gated sent
              obtain ⟨blocked, same⟩ := @process_ledger pipeline call refused
              refine ⟨later, ?_, laterSent⟩
              rw [MidiPipeline.operate, same]
              cases blocked with
              | true => exact enterBlocked_accounts delivered
              | false => exact delivered

/-! ## The panic -/

/-- The call after a panic in its block. -/
def panicAndProcess (pipeline : MidiPipeline) (offset : ℕ) (call : MidiCall) : Served :=
  (pipeline.requestPanic offset call.framesCount).2.process call

/-- With nothing to silence and a host that accepts everything, a call ends as its delivery
leaves the ledger. -/
theorem process_accepting (served : refuses call = false) (accepts : call.output = accepting)
    (clear : pipeline.channelPanicMask = 0) :
    (pipeline.process call).pipeline.ledger = (pipeline.deliver call).ledger := by
  have whole := (@flushInputs_accepting call (fun _ => true) accepts
    (pipeline.deliver call).context.remaining (pipeline.deliver call).context).1
  unfold process
  rw [if_neg (by rw [served]; exact Bool.false_ne_true)]
  change ((pipeline.silence call).flushRest call).ledger = _
  rw [silence, if_neg (not_not.mpr clear), Serving.flushRest]
  split
  · rfl
  · next outcome =>
      rw [outcome] at whole
      exact absurd whole Bool.false_ne_true

/-- A panic that does not find room blocks the output beyond its call. -/
theorem panic_without_room (gated : Gated pipeline.ledger) (served : refuses call = false)
    {offset : ℕ} (incomplete : (pipeline.ledger.panicked offset call.framesCount).1 = false) :
    (pipeline.panicAndProcess offset call).pipeline.ledger.outputBlocked = true := by
  have queued := panicked_gated gated offset call.framesCount
  have guards : Guards pipeline.ledger.requestRecovery
      (pipeline.ledger.panicked offset call.framesCount).2 :=
    Guards.queueReleasesOf offset call.framesCount (List.finRange maxVoices) 0 (true, _)
  have requested : (pipeline.requestPanic offset call.framesCount).2.ledger =
      (pipeline.ledger.panicked offset call.framesCount).2.enterBlocked := by
    change (if (pipeline.ledger.panicked offset call.framesCount).1 then _ else _ :
      MidiPipeline).ledger = _
    rw [incomplete, if_neg Bool.false_ne_true]
    rfl
  have calls : 0 < (pipeline.ledger.panicked offset call.framesCount).2.holdCallsRemaining :=
    lt_of_lt_of_eq Nat.one_pos guards.calls.symm
  obtain ⟨blocked, same⟩ := @process_ledger (pipeline.requestPanic offset call.framesCount).2 call
    served
  have delivered := @Delivery.deliver_blocked
    ((pipeline.requestPanic offset call.framesCount).2.request call)
    (pipeline.requestPanic offset call.framesCount).2.ledger
    (by rw [requested]; exact Guards.enterBlocked.gated queued)
    (by rw [requested]; exact guards.hold) (by rw [requested]; exact calls)
    (by rw [requested]; rfl)
  rw [panicAndProcess, same]
  cases blocked with
  | true => rfl
  | false => exact delivered

/-- With a host that accepts everything, a panic releases each sounding note once and leaves
the output open exactly when no note-off of the block is queued, no release waits, and the
block has room for the releases. -/
theorem panic_releases_iff (reached : Reachable pipeline)
    (opened : pipeline.ledger.outputBlocked = false) (served : refuses call = false)
    (accepts : call.output = accepting) (offset : ℕ) :
    (releasedNotes (pipeline.panicAndProcess offset call).log =
          pipeline.ledger.soundingNotes.map SoundingNote.atHost ∧
        (pipeline.panicAndProcess offset call).pipeline.ledger.outputBlocked = false) ↔
      Releasable pipeline.ledger offset call.framesCount := by
  obtain ⟨log, accounts, sent⟩ := reached.accounted
  have gated := reached.guarded.gated
  have sendable := sendable_of_wellSent accounts sent
  have some_frames : 0 < call.framesCount := by
    by_contra empty
    have none_ : call.framesCount = 0 := by omega
    simp [refuses, none_] at served
  have clear : pipeline.channelPanicMask = 0 := by
    by_contra marked
    exact absurd ((reached.guarded.masked marked).symm.trans opened) (by simp)
  have recovers (next : MidiPipeline) (releasable : Releasable pipeline.ledger offset
      call.framesCount) :=
    @panicked_open pipeline.ledger log offset (next.request call) accounts gated sendable opened _
      rfl (pipelineSink_accepts accepts (next.context call)) some_frames releasable
  cases complete : (pipeline.ledger.panicked offset call.framesCount).1 with
  | false =>
      have blocked := panic_without_room gated served complete
      constructor
      · rintro ⟨-, ends⟩
        exact absurd (blocked.symm.trans ends) (by simp)
      · intro releasable
        exact absurd (complete.symm.trans (recovers pipeline releasable).1) (by simp)
  | true =>
      have requested : (pipeline.requestPanic offset call.framesCount).2 =
          { pipeline with ledger := (pipeline.ledger.panicked offset call.framesCount).2 } := by
        change (if (pipeline.ledger.panicked offset call.framesCount).1 then _ else _ :
          MidiPipeline) = _
        rw [complete, if_pos rfl]
        rfl
      have ledger := @process_accepting _ call served accepts
        (requested ▸ clear : (pipeline.requestPanic offset call.framesCount).2.channelPanicMask = 0)
      have output := @process_unmasked _ call served
        (requested ▸ clear : (pipeline.requestPanic offset call.framesCount).2.channelPanicMask = 0)
      rw [panicAndProcess, ledger, output, requested]
      generalize nextIs : ({ pipeline with
        ledger := (pipeline.ledger.panicked offset call.framesCount).2 } : MidiPipeline) = next
      have nextLedger : next.ledger = (pipeline.ledger.panicked offset call.framesCount).2 := by
        rw [← nextIs]
      have frames : (next.request call).frames = call.framesCount := rfl
      have released (ends : (next.deliver call).ledger.outputBlocked = false) :=
        @panicked_released pipeline.ledger log offset (next.request call) accounts gated sendable
          opened some_frames complete (by rw [frames, ← nextLedger]; exact ends)
      constructor
      · rintro ⟨-, ends⟩
        exact (released ends).1
      · intro releasable
        have ends : (next.deliver call).ledger.outputBlocked = false := by
          rw [deliver_ledger, nextLedger]
          exact (recovers next releasable).2
        obtain ⟨-, pushes, items⟩ := released ends
        rw [frames, ← nextLedger] at pushes items
        have recorded := @Delivery.deliver_recorded (next.request call) _ next.ledger rfl
        refine ⟨?_, ends⟩
        have replayed := @releasedNotes_replay call accepts _ (next.context call) fun push member =>
          ⟨(pushes push member).2, recorded.inside push member⟩
        rw [releasedNotes_flush, releasedNotes, (deliver_context next call).2.2, ← releasedNotes,
          replayed, ← items, Multiset.map_coe, List.map_map]
        exact zero_add _

/-- A pipeline whose host holds one note, at the beginning of a block. -/
def withSoundingNote : MidiPipeline :=
  operateAll {} [.activate 64 true, .queueTransition (noteAt 0) 64,
    .process (acceptingCall 64 []), .beginBlock]

/-- The pipeline with a sounding note can be reached. -/
theorem withSoundingNote_reachable : Reachable withSoundingNote :=
  Reachable.initial.operateAll _

/-- A panic with an accepting host, which releases that note. -/
theorem panic_releases_iff_sounding :
    releasedNotes (withSoundingNote.panicAndProcess 9 (acceptingCall 64 [])).log =
        withSoundingNote.ledger.soundingNotes.map SoundingNote.atHost ∧
      (withSoundingNote.panicAndProcess 9 (acceptingCall 64 [])).pipeline.ledger.outputBlocked =
        false := by
  refine (panic_releases_iff withSoundingNote_reachable (by decide +kernel) (by decide) rfl 9).mpr
    ⟨fun _ _ => ?_, fun _ => by decide +kernel⟩
  have empty : withSoundingNote.ledger.queue = [] := by decide +kernel
  rw [empty]
  exact fun event member => absurd member List.not_mem_nil

/-- A note-off that the block has queued for the note releases it before the panic does, and
the panic's release blocks the output. -/
theorem queued_release_blocks_panic :
    let queued := (withSoundingNote.queueTransition
      { noteAt 3 with kind := .noteOff, velocity := 0 } 64).2
    Reachable queued ∧ queued.ledger.outputBlocked = false ∧
      acceptedEvents (queued.panicAndProcess 9 (acceptingCall 64 [])).log = [.midi 3 0x80 60 0] ∧
      (queued.panicAndProcess 9 (acceptingCall 64 [])).result.outputBlocked = true := by
  refine ⟨?_, by decide +kernel, by decide +kernel, by decide +kernel⟩
  exact withSoundingNote_reachable.operate
    (.queueTransition { noteAt 3 with kind := .noteOff, velocity := 0 } 64)

end MidiPipeline

end M3Midi
