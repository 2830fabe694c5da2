import M3Midi.Ledger.GeneratedNoteLedger
import M3Midi.Foundation.OpenClose
import Mathlib.Tactic.Cases

/-! # What the ledger holds is what the host holds

An accepted note-on opens a note at the host and an accepted note-off closes
it. Along every run of ledger operations the notes open at the host are exactly
the notes of the occupied slots, whatever the sink answers.
-/

namespace M3Midi

open Foundation

/-- A note the host holds. -/
structure SoundingNote where
  note : Nat
  voiceId : Nat
  channel : Nat
  deriving DecidableEq, Repr

/-- The note of an occupied slot. -/
def ActiveVoice.sounding (voice : ActiveVoice) : Option SoundingNote :=
  if voice.occupied then some ⟨voice.note, voice.voiceId, voice.channel⟩ else none

/-- What an accepted push does at the host. -/
def Push.mark (push : Push) : Option (Mark SoundingNote) :=
  let item := ⟨push.transition.note, push.transition.voiceId, push.channel⟩
  if push.accepted then
    some (match push.transition.kind with
      | .noteOn => .opened item
      | .noteOff => .closed item)
  else none

/-- The notes that accepted pushes open and close, in order. -/
def marks (log : List Push) : List (Mark SoundingNote) := log.filterMap Push.mark

namespace GeneratedNoteLedger

/-- The notes of the occupied slots. -/
def soundingNotes (ledger : GeneratedNoteLedger) : Multiset SoundingNote :=
  heldKeys ActiveVoice.sounding ledger.voices

/-- The active slots. -/
def activeSlots (ledger : GeneratedNoteLedger) : Finset (Fin maxVoices) :=
  Finset.univ.filter fun slot => (ledger.voices slot).active

/-- A log of pushes and the ledger after it agree on what sounds. The log alone says what the host
holds, and the slots say it again. -/
structure Accounts (log : List Push) (ledger : GeneratedNoteLedger) : Prop where
  replayed : replay 0 (marks log) = some ledger.soundingNotes
  pending_active : ∀ slot, (ledger.voices slot).pendingRelease → (ledger.voices slot).active
  counted : ledger.activeCount = ledger.soundingNotes.card
  queue_voices : ∀ event ∈ ledger.queue,
    event.voiceId = unassignedVoiceId ∨ event.voiceId < maxVoices

variable {log : List Push} {ledger : GeneratedNoteLedger}

/-- The marks of two logs are those of the first and then those of the second. -/
theorem marks_append (first second : List Push) :
    marks (first ++ second) = marks first ++ marks second :=
  List.filterMap_append

/-- A slot that is occupied sounds its note on its lane and channel. -/
theorem sounding_eq_some {voice : ActiveVoice} {item : SoundingNote} :
    voice.sounding = some item ↔
      voice.occupied = true ∧ item = ⟨voice.note, voice.voiceId, voice.channel⟩ := by
  rw [ActiveVoice.sounding, Option.ite_none_right_eq_some, Option.some.injEq,
    eq_comm (a := item)]

/-- A slot sounds nothing exactly if it is free. -/
theorem sounding_eq_none {voice : ActiveVoice} :
    voice.sounding = none ↔ voice.occupied = false := by
  simp [ActiveVoice.sounding]

namespace Accounts

/-- With pending releases only on active slots, a slot is occupied when active. -/
theorem occupied_eq_active (accounts : Accounts log ledger) (slot : Fin maxVoices) :
    (ledger.voices slot).occupied = (ledger.voices slot).active := by
  have active := accounts.pending_active slot
  unfold ActiveVoice.occupied
  cases pending : (ledger.voices slot).pendingRelease with
  | false => exact Bool.or_false _
  | true => rw [active pending, Bool.true_or]

/-- Rewriting the ledger under the same notes keeps the accounts. -/
theorem of_same_notes {next : GeneratedNoteLedger} (accounts : Accounts log ledger)
    (same : ∀ slot, (next.voices slot).sounding = (ledger.voices slot).sounding)
    (pending : ∀ slot, (next.voices slot).pendingRelease → (next.voices slot).active)
    (count : next.activeCount = ledger.activeCount)
    (queue : ∀ event ∈ next.queue, event.voiceId = unassignedVoiceId ∨ event.voiceId < maxVoices) :
    Accounts log next := by
  have notes : next.soundingNotes = ledger.soundingNotes := heldKeys_congr same
  exact ⟨notes ▸ accounts.replayed, pending, by rw [count, notes, accounts.counted], queue⟩

/-- A rejected push changes nothing at the host. -/
theorem reject {push : Push} (accounts : Accounts log ledger) (rejected : push.accepted = false) :
    Accounts (log ++ [push]) ledger := by
  have unmarked : marks [push] = [] := by simp [marks, Push.mark, rejected]
  refine ⟨?_, accounts.pending_active, accounts.counted, accounts.queue_voices⟩
  rw [marks_append, unmarked, List.append_nil]
  exact accounts.replayed

/-- An accepted note-off for a slot's own note releases it as the slot is cleared. -/
theorem clear {push : Push} {slot : Fin maxVoices} (accounts : Accounts log ledger)
    (accepted : push.accepted = true) (noteOff : push.transition.kind = .noteOff)
    (sounding : (ledger.voices slot).sounding =
      some ⟨push.transition.note, push.transition.voiceId, push.channel⟩) :
    Accounts (log ++ [push]) (ledger.clearVoice slot) := by
  have active : (ledger.voices slot).active = true :=
    (accounts.occupied_eq_active slot).symm.trans (sounding_eq_some.mp sounding).1
  have notes : _ ::ₘ (ledger.clearVoice slot).soundingNotes = ledger.soundingNotes :=
    heldKeys_clear sounding (by rfl)
  have released : marks [push] =
      [.closed ⟨push.transition.note, push.transition.voiceId, push.channel⟩] := by
    simp [marks, Push.mark, accepted, noteOff]
  refine ⟨?_, ?_, ?_, accounts.queue_voices⟩
  · rw [marks_append, released, replay_concat accounts.replayed, ← notes]
    exact settle_closed_cons _ _
  · intro other pending
    by_cases same : other = slot
    · subst same
      simp [clearVoice] at pending
    · simp only [clearVoice, Function.update_of_ne same] at pending ⊢
      exact accounts.pending_active other pending
  · have counted : ledger.activeCount = (ledger.clearVoice slot).soundingNotes.card + 1 := by
      rw [accounts.counted, ← notes, Multiset.card_cons]
    have positive : ledger.activeCount > 0 := by omega
    change (if _ then ledger.activeCount - 1 else ledger.activeCount) = _
    rw [if_pos ⟨active, positive⟩, counted, Nat.add_sub_cancel]

/-- An accepted note-on sounds as a free slot takes its note. -/
theorem occupy {push : Push} {slot : Fin maxVoices} (accounts : Accounts log ledger)
    (accepted : push.accepted = true) (noteOn : push.transition.kind = .noteOn)
    (free : (ledger.voices slot).occupied = false) :
    Accounts (log ++ [push])
      (Delivery.occupyVoice slot push.transition push.channel ledger) := by
  have notes : (Delivery.occupyVoice slot push.transition push.channel ledger).soundingNotes =
      ⟨push.transition.note, push.transition.voiceId, push.channel⟩ ::ₘ ledger.soundingNotes :=
    heldKeys_fill (sounding_eq_none.mpr free) (by rfl)
  have started : marks [push] =
      [.opened ⟨push.transition.note, push.transition.voiceId, push.channel⟩] := by
    simp [marks, Push.mark, accepted, noteOn]
  refine ⟨?_, ?_, ?_, accounts.queue_voices⟩
  · rw [marks_append, started, replay_concat accounts.replayed, settle_opened, notes]
  · intro other pending
    by_cases same : other = slot
    · subst same
      simp [Delivery.occupyVoice] at pending
    · simp only [Delivery.occupyVoice, Function.update_of_ne same] at pending ⊢
      exact accounts.pending_active other pending
  · rw [notes, Multiset.card_cons, ← accounts.counted]
    rfl

end Accounts

/-- The queue that is emptied changes no account. -/
theorem resetStorage_accounts (accounts : Accounts log ledger) :
    Accounts log ledger.resetStorage :=
  accounts.of_same_notes (fun _ => rfl) accounts.pending_active rfl
    fun _ member => absurd member List.not_mem_nil

/-- The storage of the queue has nothing to do with the account. -/
theorem allocateStorage_accounts (accounts : Accounts log ledger) (maxFrames : Nat)
    (granted : Bool) : Accounts log (ledger.allocateStorage maxFrames granted).2 := by
  dsimp only [allocateStorage]
  split_ifs
  · exact accounts
  · exact accounts
  · exact accounts.of_same_notes (fun _ => rfl) accounts.pending_active rfl accounts.queue_voices
  · exact accounts

/-- The marks of a requested release change no account: the notes sound on until they are released.
-/
theorem requestReleaseAll_accounts (accounts : Accounts log ledger) :
    Accounts log ledger.requestReleaseAll := by
  refine accounts.of_same_notes (fun slot => ?_) (fun slot pending => ?_) rfl accounts.queue_voices
  · simp [ActiveVoice.sounding, ActiveVoice.occupied, requestReleaseAll]
  · simp only [requestReleaseAll, Bool.or_eq_true] at pending ⊢
    exact pending.elim id (accounts.pending_active slot)

/-- The latch of the output changes no account. -/
theorem enterBlocked_accounts (accounts : Accounts log ledger) :
    Accounts log ledger.enterBlocked :=
  requestReleaseAll_accounts <|
    accounts.of_same_notes (fun _ => rfl) accounts.pending_active rfl accounts.queue_voices

/-- A queued transition is not accounted for before it is pushed. -/
theorem queueTransition_accounts (accounts : Accounts log ledger) (transition : VoiceTransition)
    (frames : Nat) : Accounts log (ledger.queueTransition transition frames).2 := by
  dsimp only [queueTransition]
  split_ifs with refused
  · exact accounts.of_same_notes (fun _ => rfl) accounts.pending_active rfl accounts.queue_voices
  · have valid : validTransition transition = true := by
      simp only [not_or, Bool.not_eq_false] at refused
      exact refused.2.2.2.2.2
    refine accounts.of_same_notes (fun _ => rfl) accounts.pending_active rfl fun event member => ?_
    rcases mem_insertFromBack.mp member with rfl | queued
    · simp only [validTransition, Bool.and_eq_true, decide_eq_true_eq] at valid
      exact valid.2
    · exact accounts.queue_voices event queued

theorem queueReleasesOf_accounts (sampleOffset frames : Nat) (slots : List (Fin maxVoices))
    (sequence : Nat) (progress : Bool × GeneratedNoteLedger) (accounts : Accounts log progress.2) :
    Accounts log (queueReleasesOf sampleOffset frames slots sequence progress).2 := by
  induction slots generalizing sequence progress with
  | nil => exact accounts
  | cons slot slots ih =>
      dsimp only [queueReleasesOf]
      split_ifs
      · exact ih _ _ (queueTransition_accounts accounts _ frames)
      · exact ih _ _ accounts

/-- The end of a hold changes no account. -/
theorem finishHold_accounts (accounts : Accounts log ledger) (request : DeliveryRequest) :
    Accounts log (ledger.finishHold request) := by
  unfold finishHold
  split_ifs
  · exact accounts
  · exact accounts.of_same_notes (fun _ => rfl) accounts.pending_active rfl accounts.queue_voices
  · exact accounts.of_same_notes (fun _ => rfl) accounts.pending_active rfl accounts.queue_voices
  · exact accounts

/-- A slot found for a transition holds exactly the transition's note. -/
theorem findVoice_sounding {transition : VoiceTransition} {slot : Fin maxVoices}
    (found : ledger.findVoice transition = some slot)
    (valid : transition.voiceId = unassignedVoiceId ∨ transition.voiceId < maxVoices) :
    (ledger.voices slot).sounding =
      some ⟨transition.note, transition.voiceId, (ledger.voices slot).channel⟩ := by
  have held := firstSlot_spec found
  simp only [holds, Bool.and_eq_true, decide_eq_true_eq] at held
  obtain ⟨⟨occupied, note⟩, voice⟩ := held
  have voiceId : (ledger.voices slot).voiceId = transition.voiceId := by
    split at voice
    · exact of_decide_eq_true voice
    · rename_i unassigned
      exact (of_decide_eq_true voice).trans (valid.resolve_right unassigned).symm
  rw [sounding_eq_some]
  exact ⟨occupied, by rw [note, voiceId]⟩

end GeneratedNoteLedger

namespace Delivery

open GeneratedNoteLedger

/-- The pushes before a call and within it agree with the ledger. -/
def Accounts (log : List Push) (delivery : Delivery) : Prop :=
  GeneratedNoteLedger.Accounts (log ++ delivery.pushed) delivery.ledger

variable {log : List Push} {delivery : Delivery}

/-- A push either records nothing and fails, or records the sink's answer. -/
theorem push_cases (delivery : Delivery) (sink : NoteEventSink) (transition : VoiceTransition)
    (channel : Nat) :
    delivery.push sink transition channel = (false, delivery) ∨
      ∃ accepted, delivery.push sink transition channel =
        (accepted, ⟨delivery.ledger, delivery.pushed ++ [⟨transition, channel, accepted⟩]⟩) := by
  unfold push
  cases sink with
  | none => exact .inl rfl
  | some answer =>
      dsimp only
      split_ifs
      · exact .inr ⟨_, rfl⟩
      · exact .inl rfl

/-- A failed push leaves the accounts as they were. -/
theorem Accounts.push_failed (accounts : Accounts log delivery) {sink : NoteEventSink}
    {transition : VoiceTransition} {channel : Nat} {rejected : Delivery}
    (pushed : delivery.push sink transition channel = (false, rejected)) :
    Accounts log rejected ∧ rejected.ledger = delivery.ledger := by
  rcases push_cases delivery sink transition channel with failed | ⟨accepted, answered⟩
  · obtain ⟨-, rfl⟩ := Prod.mk.inj (failed.symm.trans pushed)
    exact ⟨accounts, rfl⟩
  · obtain ⟨rfl, rfl⟩ := Prod.mk.inj (answered.symm.trans pushed)
    refine ⟨?_, rfl⟩
    have kept : GeneratedNoteLedger.Accounts
        (log ++ delivery.pushed ++ [⟨transition, channel, false⟩]) delivery.ledger :=
      GeneratedNoteLedger.Accounts.reject accounts rfl
    rwa [List.append_assoc] at kept

/-- An accepted push is recorded last and leaves the ledger alone. -/
theorem push_accepted {sink : NoteEventSink} {transition : VoiceTransition} {channel : Nat}
    {accepted : Delivery} (pushed : delivery.push sink transition channel = (true, accepted)) :
    accepted = ⟨delivery.ledger, delivery.pushed ++ [⟨transition, channel, true⟩]⟩ := by
  rcases push_cases delivery sink transition channel with failed | ⟨answer, answered⟩
  · exact absurd (failed.symm.trans pushed) (by simp)
  · obtain ⟨rfl, rfl⟩ := Prod.mk.inj (answered.symm.trans pushed)
    rfl

/-- Blocking the output keeps the accounts. -/
theorem Accounts.block (accounts : Accounts log delivery) :
    Accounts log (delivery.mapLedger enterBlocked) :=
  enterBlocked_accounts accounts

/-- Clearing the slot of an accepted note-off keeps the accounts. -/
theorem Accounts.push_noteOff (accounts : Accounts log delivery) {sink : NoteEventSink}
    {transition : VoiceTransition} {slot : Fin maxVoices} {accepted : Delivery}
    (noteOff : transition.kind = .noteOff)
    (sounding : (delivery.ledger.voices slot).sounding =
      some ⟨transition.note, transition.voiceId, (delivery.ledger.voices slot).channel⟩)
    (pushed : delivery.push sink transition (delivery.ledger.voices slot).channel =
      (true, accepted)) :
    Accounts log (accepted.mapLedger fun ledger => ledger.clearVoice slot) := by
  obtain rfl := push_accepted pushed
  have cleared : GeneratedNoteLedger.Accounts
      (log ++ delivery.pushed ++ [⟨transition, (delivery.ledger.voices slot).channel, true⟩])
      (delivery.ledger.clearVoice slot) :=
    GeneratedNoteLedger.Accounts.clear accounts rfl noteOff sounding
  rwa [List.append_assoc] at cleared

/-- Filling a free slot after an accepted note-on keeps the accounts. -/
theorem Accounts.push_noteOn (accounts : Accounts log delivery) {sink : NoteEventSink}
    {transition : VoiceTransition} {slot : Fin maxVoices} {channel : Nat} {accepted : Delivery}
    (noteOn : transition.kind = .noteOn)
    (free : (delivery.ledger.voices slot).occupied = false)
    (pushed : delivery.push sink transition channel = (true, accepted)) :
    Accounts log (accepted.mapLedger (occupyVoice slot transition channel)) := by
  obtain rfl := push_accepted pushed
  have filled : GeneratedNoteLedger.Accounts
      (log ++ delivery.pushed ++ [⟨transition, channel, true⟩])
      (occupyVoice slot transition channel delivery.ledger) :=
    GeneratedNoteLedger.Accounts.occupy accounts rfl noteOn free
  rwa [List.append_assoc] at filled

/-- Every release that the sink takes ends one note of the account, and clears its slot. The loop
stops at the first refusal, which ends none. -/
theorem retryReleases_accounts (sink : NoteEventSink) (pending : List (Nat × Fin maxVoices))
    (accounts : Accounts log delivery) : Accounts log (retryReleases sink pending delivery).2 := by
  induction pending generalizing delivery with
  | nil => exact accounts
  | cons next rest ih =>
      obtain ⟨note, slot⟩ := next
      dsimp only [retryReleases]
      split_ifs with skipped
      · exact ih accounts
      · have waiting : (delivery.ledger.voices slot).pendingRelease = true := by
          simp only [not_or, Bool.not_eq_false] at skipped
          exact skipped.1
        split
        · rename_i rejected pushed
          exact (accounts.push_failed pushed).1.block
        · rename_i accepted pushed
          refine ih (accounts.push_noteOff rfl (sounding_eq_some.mpr ⟨?_, rfl⟩) pushed)
          rw [ActiveVoice.occupied, waiting, Bool.or_true]

/-- The flag of the finished clean-up changes no account. -/
theorem completeCleanup_accounts (accounts : Accounts log delivery) :
    Accounts log (delivery.mapLedger completeCleanup) :=
  accounts.of_same_notes (fun _ => rfl) accounts.pending_active rfl accounts.queue_voices

/-- The whole retry keeps the account. -/
theorem retryPendingReleases_accounts (accounts : Accounts log delivery) (sink : NoteEventSink) :
    Accounts log (delivery.retryPendingReleases sink).2 := by
  unfold retryPendingReleases
  split_ifs
  · exact completeCleanup_accounts accounts
  · have retried := retryReleases_accounts sink retryOrder accounts
    split
    · rename_i rejected outcome
      rwa [outcome] at retried
    · rename_i released outcome
      rw [outcome] at retried
      exact completeCleanup_accounts retried

/-- A slot that holds a note may be marked as waiting for its release. -/
theorem markPending_accounts {slot : Fin maxVoices} (accounts : Accounts log delivery)
    (occupied : (delivery.ledger.voices slot).occupied = true) :
    Accounts log (delivery.mapLedger (markPending slot)) := by
  have active := (accounts.occupied_eq_active slot).symm.trans occupied
  refine accounts.of_same_notes (fun other => ?_) (fun other pending => ?_) rfl
    accounts.queue_voices
  all_goals by_cases same : other = slot
  · subst same
    simp [mapLedger, markPending, ActiveVoice.sounding, ActiveVoice.occupied, active]
  · simp only [mapLedger, markPending, Function.update_of_ne same]
  · subst same
    simpa only [mapLedger, markPending, Function.update_self] using active
  · simp only [mapLedger, markPending, Function.update_of_ne same] at pending ⊢
    exact accounts.pending_active other pending

/-- A note-off that is taken ends the note of the slot that it names. A refused one leaves the note
to a later retry. -/
theorem deliverNoteOff_accounts (accounts : Accounts log delivery) (sink : NoteEventSink)
    {event : VoiceTransition} (noteOff : event.kind = .noteOff)
    (valid : event.voiceId = unassignedVoiceId ∨ event.voiceId < maxVoices) :
    Accounts log (delivery.deliverNoteOff sink event).2 := by
  unfold deliverNoteOff
  split
  · exact accounts.block
  · rename_i slot found
    have sounding := findVoice_sounding found valid
    split
    · rename_i rejected pushed
      obtain ⟨kept, same⟩ := accounts.push_failed pushed
      refine (markPending_accounts kept ?_).block
      rw [same]
      exact (sounding_eq_some.mp sounding).1
    · rename_i accepted pushed
      exact accounts.push_noteOff noteOff sounding pushed

/-- A note-on that is taken begins a note, in a slot that was free. A refused one begins none. -/
theorem deliverNoteOn_accounts (accounts : Accounts log delivery) (request : DeliveryRequest)
    {event : VoiceTransition} (noteOn : event.kind = .noteOn) :
    Accounts log (delivery.deliverNoteOn request event).2 := by
  unfold deliverNoteOn
  split_ifs
  · exact accounts
  · exact accounts.block
  · exact accounts.block
  · dsimp only
    split
    · exact accounts.block
    · rename_i slot free
      have unoccupied : (delivery.ledger.voices slot).occupied = false := by
        simpa only [Bool.not_eq_true'] using firstSlot_spec free
      split_ifs
      · exact accounts.block
      · split
        · rename_i rejected pushed
          exact (accounts.push_failed pushed).1.block
        · rename_i accepted pushed
          exact accounts.push_noteOn noteOn unoccupied pushed

/-- One queued event keeps the accounts, whatever the sink answers. -/
theorem deliverEvent_accounts (accounts : Accounts log delivery) (request : DeliveryRequest)
    {event : VoiceTransition}
    (valid : event.voiceId = unassignedVoiceId ∨ event.voiceId < maxVoices) :
    Accounts log (delivery.deliverEvent request event).2 := by
  unfold deliverEvent
  split_ifs
  · exact accounts
  · cases kind : event.kind with
    | noteOff => exact deliverNoteOff_accounts accounts request.sink kind valid
    | noteOn => exact deliverNoteOn_accounts accounts request kind

/-- The delivery loop keeps the accounts wherever it leaves. -/
theorem deliverEvents_accounts (request : DeliveryRequest) (events : List VoiceTransition)
    (accounts : Accounts log delivery)
    (valid : ∀ event ∈ events, event.voiceId = unassignedVoiceId ∨ event.voiceId < maxVoices) :
    Accounts log (deliverEvents request events delivery) := by
  induction events generalizing delivery with
  | nil => exact accounts
  | cons event events ih =>
      obtain ⟨head, tail⟩ := List.forall_mem_cons.mp valid
      have delivered := deliverEvent_accounts accounts request head
      unfold deliverEvents
      split
      · rename_i next outcome
        rw [outcome] at delivered
        exact ih delivered tail
      · rename_i blocked outcome
        rwa [outcome] at delivered

/-- The check of a request may latch the output, which changes no account. -/
theorem checkRequest_accounts (accounts : Accounts log delivery) (request : DeliveryRequest) :
    Accounts log (delivery.mapLedger (checkRequest request)) :=
  accounts.of_same_notes (fun _ => rfl) accounts.pending_active rfl accounts.queue_voices

/-- A delivery from the queue keeps the account, event by event. -/
theorem deliverQueued_accounts (accounts : Accounts log delivery) (request : DeliveryRequest) :
    Accounts log (delivery.deliverQueued request).2 := by
  have checked := checkRequest_accounts accounts request
  dsimp only [deliverQueued]
  split_ifs
  · exact accounts.of_same_notes (fun _ => rfl) accounts.pending_active rfl accounts.queue_voices
  · exact finishHold_accounts
      (deliverEvents_accounts request _ checked checked.queue_voices) request
  · exact finishHold_accounts checked request

/-- A call that delivers keeps the account, retries included. -/
theorem deliver_accounts (accounts : Accounts log delivery) (request : DeliveryRequest) :
    Accounts log (delivery.deliver request).2 :=
  deliverQueued_accounts (retryPendingReleases_accounts accounts request.sink) request

end Delivery

namespace GeneratedNoteLedger

variable {log : List Push} {ledger : GeneratedNoteLedger}

/-- Every ledger operation keeps the accounts. -/
theorem operate_accounts (accounts : Accounts log ledger) (operation : LedgerOperation) :
    Accounts (log ++ (ledger.operate operation).pushed) (ledger.operate operation).ledger := by
  have entered : Delivery.Accounts log { ledger } := by
    rwa [Delivery.Accounts, List.append_nil]
  have unpushed {next : GeneratedNoteLedger} (kept : Accounts log next) :
      Accounts (log ++ []) next := by rwa [List.append_nil]
  cases operation with
  | activatePreservingPending maxFrames granted =>
      exact unpushed (allocateStorage_accounts (resetStorage_accounts accounts) maxFrames granted)
  | beginBlock =>
      exact unpushed (accounts.of_same_notes (fun _ => rfl) accounts.pending_active rfl
        fun _ member => absurd member List.not_mem_nil)
  | queueTransition transition frames =>
      exact unpushed (queueTransition_accounts accounts transition frames)
  | queueActiveReleases sampleOffset frames =>
      exact unpushed (queueReleasesOf_accounts sampleOffset frames _ 0 (true, ledger) accounts)
  | requestReleaseAll => exact unpushed (requestReleaseAll_accounts accounts)
  | reportOutputFailure => exact unpushed (enterBlocked_accounts accounts)
  | requestRecovery =>
      exact unpushed (accounts.of_same_notes (fun _ => rfl) accounts.pending_active rfl
        accounts.queue_voices)
  | retryPendingReleases sink => exact Delivery.retryPendingReleases_accounts entered sink
  | deliverQueued request => exact Delivery.deliverQueued_accounts entered request
  | deliver request => exact Delivery.deliver_accounts entered request
  | releaseStoragePreservingPending =>
      exact unpushed (resetStorage_accounts (requestReleaseAll_accounts accounts))

/-- A freshly activated ledger holds nothing, like its host. -/
theorem activate_accounts (before : GeneratedNoteLedger) (maxFrames : Nat) (granted : Bool) :
    Accounts [] (before.activate maxFrames granted).2 := by
  refine allocateStorage_accounts ⟨?_, by simp [deactivate], ?_, by simp [deactivate]⟩ _ _
  all_goals
    have silent : (deactivate before).soundingNotes = 0 :=
      Multiset.eq_zero_of_forall_notMem fun item member => by
        obtain ⟨slot, held⟩ := mem_heldKeys.mp member
        exact absurd held (by simp [deactivate, ActiveVoice.sounding, ActiveVoice.occupied])
    rw [silent]
    rfl

/-- The accounts hold after every run of operations. -/
theorem run_accounts (before : GeneratedNoteLedger) (maxFrames : Nat) (granted : Bool)
    (operations : List LedgerOperation) :
    Accounts (machine.run (before.activate maxFrames granted).2 operations).2
      (machine.run (before.activate maxFrames granted).2 operations).1 := by
  have preserved (log : List Push) (ledger : GeneratedNoteLedger) (operation : LedgerOperation)
      (accounts : Accounts log ledger) :
      Accounts (log ++ (machine.step ledger operation).2) (machine.step ledger operation).1 :=
    operate_accounts accounts operation
  have kept := machine.run_invariant preserved (activate_accounts before maxFrames granted)
    operations
  rwa [List.nil_append] at kept

/-- The count of sounding notes is the count of active slots. -/
theorem Accounts.card_activeSlots (accounts : Accounts log ledger) :
    ledger.activeCount = ledger.activeSlots.card := by
  rw [accounts.counted, soundingNotes, card_heldKeys, activeSlots]
  refine congrArg Finset.card (Finset.filter_congr fun slot _ => ?_)
  rw [← accounts.occupied_eq_active slot]
  cases occupied : (ledger.voices slot).occupied <;> simp [ActiveVoice.sounding, occupied]

/-- **The ledger holds what the host holds.** After any run of operations on a
freshly activated ledger, with any answers of the sink, replaying the accepted
note-ons and note-offs closes one open note of the same channel per note-off and
leaves open exactly the notes of the occupied slots. -/
theorem run_sounding_notes (before : GeneratedNoteLedger) (maxFrames : Nat) (granted : Bool)
    (operations : List LedgerOperation) :
    let result := machine.run (before.activate maxFrames granted).2 operations
    replay 0 (marks result.2) = some result.1.soundingNotes ∧
      openedItems (marks result.2) - closedItems (marks result.2) = result.1.soundingNotes ∧
      (∀ slot, (result.1.voices slot).pendingRelease → (result.1.voices slot).active) ∧
      result.1.activeCount = result.1.activeSlots.card ∧ result.1.activeCount ≤ maxVoices := by
  intro result
  have accounts : Accounts result.2 result.1 :=
    run_accounts before maxFrames granted operations
  refine ⟨accounts.replayed, opened_sub_closed_of_replay accounts.replayed,
    accounts.pending_active, accounts.card_activeSlots, ?_⟩
  rw [accounts.counted]
  exact card_heldKeys_le result.1.voices

end GeneratedNoteLedger

end M3Midi
