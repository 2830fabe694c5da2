import M3Midi.Ledger.HeldNotes

/-! # The gates of a ledger

After a failure the output stays blocked, and after a request to recover a hold
keeps new notes out. Both end together, at the end of a delivery, and only once
every note that sounded at the failure was released: while the output is blocked
each active note waits for its release, and a completed cleanup leaves none waiting
(`M3Midi.GeneratedNoteLedger.Gated`).
-/

namespace M3Midi

open Foundation

/-- A call of a ledger: an operation, or a start or stop that forgets everything. -/
inductive LedgerCall
  | operation (operation : LedgerOperation)
  | activate (maxFrames : Nat) (granted : Bool)
  | deactivate

namespace LedgerCall

/-- Does the call forget what the ledger was in? -/
def resets : LedgerCall → Bool
  | operation _ => false
  | activate _ _ | deactivate => true

/-- Is the call a request to recover? -/
def recovers : LedgerCall → Bool
  | operation .requestRecovery => true
  | _ => false

/-- The request of a call that delivers. -/
def delivers : LedgerCall → Option DeliveryRequest
  | operation (.deliverQueued request) | operation (.deliver request) => some request
  | _ => none

end LedgerCall

namespace GeneratedNoteLedger

/-- One call, with the pushes it makes. -/
def call (ledger : GeneratedNoteLedger) : LedgerCall → Delivery
  | .operation operation => ledger.operate operation
  | .activate maxFrames granted => { ledger := (ledger.activate maxFrames granted).2 }
  | .deactivate => { ledger := ledger.deactivate }

/-- The ledger as a machine that reads all of its calls. -/
def callMachine : Transducer LedgerCall GeneratedNoteLedger Push where
  step ledger next := ((ledger.call next).ledger, (ledger.call next).pushed)

/-- What a call has done before it comes to its queue: `deliver` retries first. -/
def entering (ledger : GeneratedNoteLedger) : LedgerCall → Delivery
  | .operation (.deliver request) =>
      (Delivery.retryPendingReleases { ledger } request.sink).2
  | _ => { ledger }

/-- What the flags say about the slots. It is kept by every operation, and with it the flags can be
trusted without a look at the slots. -/
structure Gated (ledger : GeneratedNoteLedger) : Prop where
  notes : ∀ slot, (ledger.voices slot).occupied = true → (ledger.voices slot).note ≤ 127
  queued : ∀ event ∈ ledger.queue, event.note ≤ 127
  cleaned : ledger.cleanupComplete = true →
    ∀ slot, (ledger.voices slot).pendingRelease = false
  blocked : ledger.outputBlocked = true →
    ∀ slot, (ledger.voices slot).active = true → (ledger.voices slot).pendingRelease = true

/-- A change that keeps the gates: none opens, and a blocked output stays blocked. -/
structure Guards (before after : GeneratedNoteLedger) : Prop where
  gated : Gated before → Gated after
  hold : after.panicHold = before.panicHold
  calls : after.holdCallsRemaining = before.holdCallsRemaining
  blocked : before.outputBlocked = true → after.outputBlocked = true

namespace Guards

variable {before middle after ledger : GeneratedNoteLedger}

theorem refl (ledger : GeneratedNoteLedger) : Guards ledger ledger := ⟨id, rfl, rfl, id⟩

theorem trans (first : Guards before middle) (second : Guards middle after) :
    Guards before after :=
  ⟨second.gated ∘ first.gated, second.hold.trans first.hold, second.calls.trans first.calls,
    second.blocked ∘ first.blocked⟩

/-- The storage of the queue has nothing to do with the gates. -/
theorem allocateStorage (maxFrames : Nat) (granted : Bool) :
    Guards ledger (ledger.allocateStorage maxFrames granted).2 := by
  dsimp only [GeneratedNoteLedger.allocateStorage]
  split_ifs
  all_goals
    exact ⟨fun gated => ⟨gated.notes, gated.queued, gated.cleaned, gated.blocked⟩, rfl, rfl, id⟩

/-- The queue that is emptied keeps the gates, since no event is left to be checked. -/
theorem resetStorage : Guards ledger ledger.resetStorage :=
  ⟨fun gated => ⟨gated.notes, fun _ member => absurd member List.not_mem_nil, gated.cleaned,
    gated.blocked⟩, rfl, rfl, id⟩

/-- The start of a block drops the queue and keeps the gates. -/
theorem beginBlock : Guards ledger ledger.beginBlock :=
  ⟨fun gated => ⟨gated.notes, fun _ member => absurd member List.not_mem_nil, gated.cleaned,
    gated.blocked⟩, rfl, rfl, id⟩

/-- Asking for releases undoes a completed cleanup, unless nothing was active. -/
theorem requestReleaseAll : Guards ledger ledger.requestReleaseAll := by
  refine ⟨fun gated => ⟨fun slot occupied => ?_, gated.queued, fun cleaned slot => ?_,
    fun _ slot active => ?_⟩, rfl, rfl, id⟩
  · refine gated.notes slot ?_
    simpa [GeneratedNoteLedger.requestReleaseAll, ActiveVoice.occupied] using occupied
  · simp only [GeneratedNoteLedger.requestReleaseAll, Bool.and_eq_true, Bool.not_eq_true',
      List.any_eq_false] at cleaned
    obtain ⟨complete, idle⟩ := cleaned
    have inactive := idle slot (List.mem_finRange slot)
    simp only [GeneratedNoteLedger.requestReleaseAll, Bool.or_eq_false_iff]
    exact ⟨Bool.eq_false_iff.mpr inactive, gated.cleaned complete slot⟩
  · exact Bool.or_eq_true_iff.mpr (.inl active)

/-- A failure marks every active note and takes back a completed cleanup. -/
theorem enterBlocked : Guards ledger ledger.enterBlocked := by
  refine ⟨fun gated => ⟨fun slot occupied => ?_, gated.queued, fun cleaned => ?_,
    fun _ slot active => Bool.or_eq_true_iff.mpr (.inl active)⟩, rfl, rfl, fun _ => rfl⟩
  · refine gated.notes slot ?_
    simpa [GeneratedNoteLedger.enterBlocked, GeneratedNoteLedger.requestReleaseAll,
      ActiveVoice.occupied] using occupied
  · exact absurd cleaned (by simp [GeneratedNoteLedger.enterBlocked,
      GeneratedNoteLedger.requestReleaseAll])

/-- A queued transition has a note of the range. -/
theorem queueTransition (transition : VoiceTransition) (frames : Nat) :
    Guards ledger (ledger.queueTransition transition frames).2 := by
  dsimp only [GeneratedNoteLedger.queueTransition]
  split_ifs with refused
  · exact ⟨fun gated => ⟨gated.notes, gated.queued, gated.cleaned, gated.blocked⟩, rfl, rfl, id⟩
  · have valid : validTransition transition = true := by
      simp only [not_or, Bool.not_eq_false] at refused
      exact refused.2.2.2.2.2
    simp only [validTransition, Bool.and_eq_true, decide_eq_true_eq] at valid
    refine ⟨fun gated => ⟨gated.notes, fun event member => ?_, gated.cleaned, gated.blocked⟩,
      rfl, rfl, id⟩
    rcases mem_insertFromBack.mp member with rfl | queued
    · exact valid.1.1
    · exact gated.queued event queued

/-- The releases that are queued for a panic keep the gates. They carry notes of the slots, which
are MIDI notes. -/
theorem queueReleasesOf (sampleOffset frames : Nat) (slots : List (Fin maxVoices))
    (sequence : Nat) (progress : Bool × GeneratedNoteLedger) :
    Guards progress.2
      (GeneratedNoteLedger.queueReleasesOf sampleOffset frames slots sequence progress).2 := by
  induction slots generalizing sequence progress with
  | nil => exact refl _
  | cons slot slots ih =>
      obtain ⟨complete, current⟩ := progress
      dsimp only [GeneratedNoteLedger.queueReleasesOf]
      split_ifs
      · have queued : Guards current
            (current.queueTransition (activeRelease (current.voices slot) sampleOffset sequence)
              frames).2 := queueTransition _ frames
        generalize current.queueTransition (activeRelease (current.voices slot) sampleOffset
          sequence) frames = outcome at queued ⊢
        exact queued.trans (ih (sequence + 1) (outcome.1 && complete, outcome.2))
      · exact ih sequence (complete, current)

/-- Rewriting one slot keeps the gates when the new voice keeps them. -/
theorem update {slot : Fin maxVoices} {voice : ActiveVoice} {count : Nat}
    (note : Gated ledger → voice.occupied = true → voice.note ≤ 127)
    (cleaned : ledger.cleanupComplete = true → voice.pendingRelease = false)
    (blocked : ledger.outputBlocked = true → voice.active = true → voice.pendingRelease = true) :
    Guards ledger { ledger with
      voices := Function.update ledger.voices slot voice, activeCount := count } := by
  have cases (claim : ActiveVoice → Prop) (kept : ∀ other, claim (ledger.voices other))
      (new : claim voice) (other : Fin maxVoices) :
      claim (Function.update ledger.voices slot voice other) := by
    by_cases same : other = slot
    · rw [same, Function.update_self]
      exact new
    · rw [Function.update_of_ne same]
      exact kept other
  refine ⟨fun gated => ⟨?_, gated.queued, fun complete => ?_, fun isBlocked => ?_⟩, rfl, rfl, id⟩
  · exact cases (fun voice => voice.occupied = true → voice.note ≤ 127) gated.notes (note gated)
  · exact cases (fun voice => voice.pendingRelease = false) (gated.cleaned complete)
      (cleaned complete)
  · exact cases (fun voice => voice.active = true → voice.pendingRelease = true)
      (gated.blocked isBlocked) (blocked isBlocked)

/-- A slot that is cleared is neither active nor pending, and keeps the gates. -/
theorem clearVoice (slot : Fin maxVoices) : Guards ledger (ledger.clearVoice slot) :=
  update (fun _ occupied => absurd occupied (by decide)) (fun _ => rfl)
    (fun _ active => absurd active (by decide))

/-- A note enters an output that is not blocked. -/
theorem occupyVoice (unblocked : ledger.outputBlocked = false) (slot : Fin maxVoices)
    {event : VoiceTransition} (note : event.note ≤ 127) (channel : Nat) :
    Guards ledger (Delivery.occupyVoice slot event channel ledger) :=
  update (fun _ _ => note) (fun _ => rfl)
    (fun blocked => absurd (unblocked.symm.trans blocked) (by simp))

/-- A note whose release the sink rejected waits, and the output is blocked. -/
theorem markPending {slot : Fin maxVoices} (occupied : (ledger.voices slot).occupied = true) :
    Guards ledger (Delivery.markPending slot ledger).enterBlocked := by
  have marked (gated : Gated ledger) :
      Gated { Delivery.markPending slot ledger with cleanupComplete := false } := by
    have kept : Guards { ledger with cleanupComplete := false }
        { Delivery.markPending slot ledger with cleanupComplete := false } :=
      update (fun _ _ => gated.notes slot occupied) (fun cleaned => absurd cleaned (by simp))
        (fun _ _ => rfl)
    exact kept.gated ⟨gated.notes, gated.queued, fun cleaned => absurd cleaned (by simp),
      gated.blocked⟩
  refine ⟨fun gated => ?_, rfl, rfl, fun _ => rfl⟩
  have blocked := enterBlocked.gated (marked gated)
  exact blocked

/-- A request with an impossible channel latches the output, and opens nothing. -/
theorem checkRequest (request : DeliveryRequest) :
    Guards ledger (Delivery.checkRequest request ledger) :=
  ⟨fun gated => ⟨gated.notes, gated.queued, gated.cleaned, gated.blocked⟩, rfl, rfl, id⟩

end Guards

end GeneratedNoteLedger

namespace Delivery

open GeneratedNoteLedger

variable {delivery : Delivery} {sink : NoteEventSink} {request : DeliveryRequest}

/-- A push by itself opens no gate. -/
theorem push_guards {transition : VoiceTransition} {channel : Nat} {accepted : Bool}
    {next : Delivery} (pushed : delivery.push sink transition channel = (accepted, next)) :
    Guards delivery.ledger next.ledger := by
  rw [push_ledger pushed]
  exact Guards.refl _

/-- Releases that are tried again keep the gates, up to the first one that the sink refuses. -/
theorem retryReleases_guards (pending : List (Nat × Fin maxVoices)) :
    Guards delivery.ledger (retryReleases sink pending delivery).2.ledger := by
  induction pending generalizing delivery with
  | nil => exact Guards.refl _
  | cons next rest ih =>
      obtain ⟨note, slot⟩ := next
      dsimp only [retryReleases]
      split_ifs
      · exact ih
      · split
        · rename_i rejected pushed
          exact (push_guards pushed).trans Guards.enterBlocked
        · rename_i accepted pushed
          have released := @ih (accepted.mapLedger fun ledger => ledger.clearVoice slot)
          exact (push_guards pushed).trans ((Guards.clearVoice slot).trans released)

/-- A retry that finishes completes the cleanup, with nothing left pending. -/
theorem retryPendingReleases_guards :
    Guards delivery.ledger (delivery.retryPendingReleases sink).2.ledger := by
  have retried : Guards delivery.ledger (retryReleases sink retryOrder delivery).2.ledger :=
    retryReleases_guards retryOrder
  have left (gated : Gated delivery.ledger)
      (finished : (delivery.retryPendingReleases sink).1 = true) :=
    retryPendingReleases_left finished fun slot waits =>
      gated.notes slot (by rw [ActiveVoice.occupied, waits, Bool.or_true])
  have completed {ledger next : GeneratedNoteLedger} (kept : Guards ledger next)
      (none : Gated ledger → next.releasePending = false) :
      Guards ledger (completeCleanup next) := by
    refine ⟨fun gated => ?_, kept.hold, kept.calls, kept.blocked⟩
    have after := kept.gated gated
    refine ⟨after.notes, after.queued, fun _ slot => ?_, after.blocked⟩
    exact Bool.eq_false_iff.mpr
      (List.any_eq_false.mp (none gated) slot (List.mem_finRange slot))
  unfold retryPendingReleases at left ⊢
  by_cases idle : delivery.ledger.releasePending = false
  · rw [if_pos idle]
    exact completed (Guards.refl _) fun _ => idle
  · rw [if_neg idle] at left ⊢
    cases outcome : retryReleases sink retryOrder delivery with
    | mk accepted released =>
        rw [outcome] at retried left
        cases accepted with
        | false => exact retried
        | true => exact completed retried fun gated => left gated rfl

/-- A delivered note-off keeps the gates, whatever the sink answers. -/
theorem deliverNoteOff_guards (event : VoiceTransition) :
    Guards delivery.ledger (delivery.deliverNoteOff sink event).2.ledger := by
  unfold deliverNoteOff
  split
  · exact Guards.enterBlocked
  · rename_i slot found
    split
    · rename_i rejected pushed
      have occupied : (delivery.ledger.voices slot).occupied = true := by
        have held := firstSlot_spec found
        simp only [GeneratedNoteLedger.holds, Bool.and_eq_true] at held
        exact held.1.1
      rw [← push_ledger pushed] at occupied
      exact (push_guards pushed).trans (Guards.markPending occupied)
    · rename_i accepted pushed
      exact (push_guards pushed).trans (Guards.clearVoice slot)

/-- A delivered note-on keeps the gates while the output is not blocked: the slot it fills is
active, and becomes pending with all others when the sink refuses. -/
theorem deliverNoteOn_guards (unblocked : delivery.ledger.outputBlocked = false)
    {event : VoiceTransition} (note : event.note ≤ 127) :
    Guards delivery.ledger (delivery.deliverNoteOn request event).2.ledger := by
  unfold deliverNoteOn
  split_ifs
  · exact Guards.refl _
  · exact Guards.enterBlocked
  · exact Guards.enterBlocked
  · dsimp only
    split
    · exact Guards.enterBlocked
    · rename_i slot free
      split_ifs
      · exact Guards.enterBlocked
      · split
        · rename_i rejected pushed
          exact (push_guards pushed).trans Guards.enterBlocked
        · rename_i accepted pushed
          rw [← push_ledger pushed] at unblocked
          exact (push_guards pushed).trans (Guards.occupyVoice unblocked slot note _)

/-- One event of either kind keeps the gates while the output is not blocked. -/
theorem deliverEvent_guards (unblocked : delivery.ledger.outputBlocked = false)
    {event : VoiceTransition} (note : event.note ≤ 127) :
    Guards delivery.ledger (delivery.deliverEvent request event).2.ledger := by
  unfold deliverEvent
  split_ifs
  · exact Guards.refl _
  · cases event.kind with
    | noteOff => exact deliverNoteOff_guards event
    | noteOn => exact deliverNoteOn_guards unblocked note

/-- The outcome of one event: delivery stops exactly when it blocks the output, and a
note-on is pushed only outside a hold. -/
structure Outcome (delivery : Delivery) (event : VoiceTransition) (outcome : Bool × Delivery) :
    Prop where
  blocked : outcome.2.ledger.outputBlocked = (delivery.ledger.outputBlocked || !outcome.1)
  hold : outcome.2.ledger.panicHold = delivery.ledger.panicHold
  pushed : outcome.2.pushed = delivery.pushed ∨
    ∃ push, outcome.2.pushed = delivery.pushed ++ [push] ∧ push.transition = event ∧
      (event.kind = .noteOn → delivery.ledger.panicHold = false)

namespace Outcome

variable {event : VoiceTransition} {channel : Nat} {next : Delivery}

/-- A skipped event changes nothing, and the loop goes on. -/
theorem skipped : Outcome delivery event (true, delivery) :=
  ⟨(Bool.or_false _).symm, rfl, .inl rfl⟩

/-- An event that cannot be delivered latches the output, and the loop stops. -/
theorem stopped : Outcome delivery event (false, delivery.mapLedger enterBlocked) :=
  ⟨(Bool.or_true _).symm, rfl, .inl rfl⟩

/-- A push is recorded, whatever the sink answers. -/
theorem push_recorded {accepted : Bool} (awake : event.kind = .noteOn →
      delivery.ledger.panicHold = false)
    (pushed : delivery.push sink event channel = (accepted, next)) :
    next.pushed = delivery.pushed ∨
      ∃ push, next.pushed = delivery.pushed ++ [push] ∧ push.transition = event ∧
        (event.kind = .noteOn → delivery.ledger.panicHold = false) := by
  rcases push_cases delivery sink event channel with failed | ⟨answer, answered⟩
  · obtain ⟨-, rfl⟩ := Prod.mk.inj (failed.symm.trans pushed)
    exact .inl rfl
  · obtain ⟨-, rfl⟩ := Prod.mk.inj (answered.symm.trans pushed)
    exact .inr ⟨_, rfl, rfl, awake⟩

/-- The sink refuses the event: it is recorded, the output is latched and the loop stops. -/
theorem rejected (awake : event.kind = .noteOn → delivery.ledger.panicHold = false)
    (pushed : delivery.push sink event channel = (false, next))
    {change : GeneratedNoteLedger → GeneratedNoteLedger}
    (hold : ∀ ledger, (change ledger).panicHold = ledger.panicHold) :
    Outcome delivery event (false, next.mapLedger fun ledger => (change ledger).enterBlocked) := by
  have recorded := push_recorded awake pushed
  exact ⟨(Bool.or_true _).symm, (hold _).trans (congrArg panicHold (push_ledger pushed)), recorded⟩

/-- The sink takes the event: it is recorded, and the loop goes on with the output as it was. -/
theorem accepted (awake : event.kind = .noteOn → delivery.ledger.panicHold = false)
    (pushed : delivery.push sink event channel = (true, next))
    {change : GeneratedNoteLedger → GeneratedNoteLedger}
    (hold : ∀ ledger, (change ledger).panicHold = ledger.panicHold)
    (blocked : ∀ ledger, (change ledger).outputBlocked = ledger.outputBlocked) :
    Outcome delivery event (true, next.mapLedger change) := by
  have recorded := push_recorded awake pushed
  have kept := (congrArg outputBlocked (push_ledger pushed)).trans (Bool.or_false _).symm
  exact ⟨(blocked _).trans kept, (hold _).trans (congrArg panicHold (push_ledger pushed)), recorded⟩

end Outcome

/-- Every path through the delivery of one event ends in one of these ways. -/
theorem deliverEvent_outcome (event : VoiceTransition) :
    Outcome delivery event (delivery.deliverEvent request event) := by
  unfold deliverEvent
  split_ifs
  · exact Outcome.skipped
  · cases kind : event.kind with
    | noteOff =>
        have off : event.kind = .noteOn → delivery.ledger.panicHold = false := by
          rw [kind]
          exact fun contrary => absurd contrary (by simp)
        dsimp only
        unfold deliverNoteOff
        split
        · exact Outcome.stopped
        · split
          · rename_i pushed
            exact Outcome.rejected off pushed fun _ => rfl
          · rename_i pushed
            exact Outcome.accepted off pushed (fun _ => rfl) fun _ => rfl
    | noteOn =>
        dsimp only
        unfold deliverNoteOn
        split_ifs with held
        · exact Outcome.skipped
        · exact Outcome.stopped
        · exact Outcome.stopped
        · have awake : event.kind = .noteOn → delivery.ledger.panicHold = false :=
            fun _ => Bool.eq_false_iff.mpr held
          dsimp only
          split
          · exact Outcome.stopped
          · split_ifs
            · exact Outcome.stopped
            · split
              · rename_i pushed
                exact Outcome.rejected awake pushed fun _ => rfl
              · rename_i pushed
                exact Outcome.accepted awake pushed (fun _ => rfl) fun _ => rfl

/-- The loop keeps the gates. -/
theorem deliverEvents_guards (unblocked : delivery.ledger.outputBlocked = false)
    {events : List VoiceTransition} (notes : ∀ event ∈ events, event.note ≤ 127) :
    Guards delivery.ledger (deliverEvents request events delivery).ledger := by
  induction events generalizing delivery with
  | nil => exact Guards.refl _
  | cons event events ih =>
      obtain ⟨note, others⟩ := List.forall_mem_cons.mp notes
      have guards : Guards delivery.ledger (delivery.deliverEvent request event).2.ledger :=
        deliverEvent_guards unblocked note
      have outcome : Outcome delivery event (delivery.deliverEvent request event) :=
        deliverEvent_outcome event
      have open_ := outcome.blocked
      rw [unblocked, Bool.false_or] at open_
      unfold deliverEvents
      generalize delivery.deliverEvent request event = delivered at guards open_ ⊢
      obtain ⟨goes, next⟩ := delivered
      cases goes with
      | true => exact guards.trans (@ih next open_ others)
      | false => exact guards

/-- A note-on that the loop pushes comes from the event it has come to, and finds the
output neither blocked nor on hold. -/
theorem deliverEvents_noteOn (unblocked : delivery.ledger.outputBlocked = false)
    {events : List VoiceTransition} {push : Push}
    (member : push ∈ (deliverEvents request events delivery).pushed)
    (noteOn : push.transition.kind = .noteOn) :
    push ∈ delivery.pushed ∨ ∃ earlier later, events = earlier ++ push.transition :: later ∧
      (deliverEvents request earlier delivery).ledger.outputBlocked = false ∧
      (deliverEvents request earlier delivery).ledger.panicHold = false ∧
      ((deliverEvents request earlier delivery).deliverEvent request push.transition).2.pushed =
        (deliverEvents request earlier delivery).pushed ++ [push] := by
  induction events generalizing delivery with
  | nil => exact .inl member
  | cons event events ih =>
      have outcome : Outcome delivery event (delivery.deliverEvent request event) :=
        deliverEvent_outcome event
      have here (next : push ∈ (delivery.deliverEvent request event).2.pushed) :
          push ∈ delivery.pushed ∨ ∃ earlier later, event :: events =
            earlier ++ push.transition :: later ∧
          (deliverEvents request earlier delivery).ledger.outputBlocked = false ∧
          (deliverEvents request earlier delivery).ledger.panicHold = false ∧
          ((deliverEvents request earlier delivery).deliverEvent request push.transition).2.pushed =
            (deliverEvents request earlier delivery).pushed ++ [push] := by
        rcases outcome.pushed with same | ⟨new, appended, named, awake⟩
        · exact .inl (same ▸ next)
        · rw [appended] at next
          rcases List.mem_append.mp next with before | last
          · exact .inl before
          · obtain rfl := List.mem_singleton.mp last
            rw [named] at noteOn ⊢
            exact .inr ⟨[], events, rfl, unblocked, awake noteOn, appended⟩
      have open_ := outcome.blocked
      rw [unblocked, Bool.false_or] at open_
      unfold deliverEvents at member
      cases delivered : delivery.deliverEvent request event with
      | mk goes next =>
          rw [delivered] at member here open_
          cases goes with
          | false => exact here member
          | true =>
              rcases @ih next open_ member with before | ⟨earlier, later, split, rest⟩
              · exact here before
              · have first : deliverEvents request (event :: earlier) delivery =
                    deliverEvents request earlier next := by
                  rw [deliverEvents, delivered]
                refine .inr ⟨event :: earlier, later, by rw [split]; rfl, ?_⟩
                rwa [first]

/-- A retry pushes releases only. By induction on what remains to be tried. -/
theorem retryReleases_noteOff {pending : List (Nat × Fin maxVoices)} {push : Push}
    (member : push ∈ (retryReleases sink pending delivery).2.pushed) :
    push ∈ delivery.pushed ∨ push.transition.kind = .noteOff := by
  induction pending generalizing delivery with
  | nil => exact .inl member
  | cons next rest ih =>
      obtain ⟨note, slot⟩ := next
      dsimp only [retryReleases] at member
      split_ifs at member
      · exact ih member
      · have first {next : Delivery} {accepted : Bool} (pushed : delivery.push sink
            (pendingRelease (delivery.ledger.voices slot) note)
            (delivery.ledger.voices slot).channel = (accepted, next)) (here : push ∈ next.pushed) :
            push ∈ delivery.pushed ∨ push.transition.kind = .noteOff := by
          rcases push_cases delivery sink (pendingRelease (delivery.ledger.voices slot) note)
            (delivery.ledger.voices slot).channel with failed | ⟨answer, answered⟩
          · obtain ⟨-, rfl⟩ := Prod.mk.inj (failed.symm.trans pushed)
            exact .inl here
          · obtain ⟨-, rfl⟩ := Prod.mk.inj (answered.symm.trans pushed)
            rcases List.mem_append.mp here with before | last
            · exact .inl before
            · obtain rfl := List.mem_singleton.mp last
              exact .inr rfl
        split at member
        · rename_i rejected pushed
          exact first pushed member
        · rename_i accepted pushed
          rcases @ih (accepted.mapLedger fun ledger => ledger.clearVoice slot) member with
            before | release
          · exact first pushed before
          · exact .inr release

/-- What the retry pushes are note-offs. -/
theorem retryPendingReleases_noteOff {push : Push}
    (member : push ∈ (delivery.retryPendingReleases sink).2.pushed) :
    push ∈ delivery.pushed ∨ push.transition.kind = .noteOff := by
  unfold retryPendingReleases at member
  split_ifs at member
  · exact .inl member
  · cases outcome : retryReleases sink retryOrder delivery with
    | mk accepted released =>
        rw [outcome] at member
        have retried : push ∈ (retryReleases sink retryOrder delivery).2.pushed := by
          rw [outcome]
          cases accepted <;> exact member
        exact retryReleases_noteOff retried

/-- What a delivery with storage and a block of its size does before the hold is
considered. -/
def beforeHold (delivery : Delivery) (request : DeliveryRequest) : Delivery :=
  let checked := delivery.mapLedger (checkRequest request)
  if checked.ledger.releasePending = false ∧ checked.ledger.outputBlocked = false then
    deliverEvents request checked.ledger.queue checked
  else checked

/-- A delivery is refused, or ends with the hold. -/
theorem deliverQueued_cases (delivery : Delivery) (request : DeliveryRequest) :
    (delivery.deliverQueued request).2 =
        delivery.mapLedger (fun ledger => { ledger with invalidTransition := true }) ∨
      (delivery.deliverQueued request).2 =
        (delivery.beforeHold request).mapLedger fun ledger => ledger.finishHold request := by
  dsimp only [deliverQueued]
  split_ifs with refused
  · exact .inl rfl
  · refine .inr ?_
    unfold beforeHold
    dsimp only
    rw [if_pos (by assumption)]
  · refine .inr ?_
    unfold beforeHold
    dsimp only
    rw [if_neg (by assumption)]

/-- The delivery up to the end of the hold keeps the gates. -/
theorem beforeHold_guards (gated : Gated delivery.ledger) :
    Guards delivery.ledger (delivery.beforeHold request).ledger := by
  have checked : Guards delivery.ledger (delivery.mapLedger (checkRequest request)).ledger :=
    Guards.checkRequest request
  unfold beforeHold
  dsimp only
  split_ifs with opened
  · exact checked.trans (deliverEvents_guards opened.2 (checked.gated gated).queued)
  · exact checked

end Delivery

namespace GeneratedNoteLedger

open Delivery

variable {ledger : GeneratedNoteLedger} {request : DeliveryRequest}

/-- The end of a hold keeps the flags true of the slots. -/
theorem finishHold_gated (gated : Gated ledger) : Gated (ledger.finishHold request) := by
  unfold finishHold
  split_ifs
  · exact gated
  · exact ⟨gated.notes, gated.queued, gated.cleaned, gated.blocked⟩
  · exact ⟨gated.notes, gated.queued, fun cleaned => absurd cleaned (by simp),
      fun blocked => absurd blocked (by simp)⟩
  · exact gated

/-- What the end of a delivery does to the hold: nothing, one call less, or the end of
hold and block on quiet input after a completed cleanup. -/
theorem finishHold_cases (ledger : GeneratedNoteLedger) (request : DeliveryRequest) :
    ledger.finishHold request = ledger ∨
      (0 < ledger.holdCallsRemaining ∧ ledger.finishHold request =
        { ledger with holdCallsRemaining := ledger.holdCallsRemaining - 1 }) ∨
      (ledger.panicHold = true ∧ ledger.holdCallsRemaining = 0 ∧ ledger.cleanupComplete = true ∧
        request.finiteInput = true ∧ request.supportedLayout = true ∧
        request.selectedPeak.any (· < quietPeak) = true ∧
        (ledger.finishHold request).panicHold = false ∧
        (ledger.finishHold request).voices = ledger.voices) := by
  unfold finishHold
  split_ifs with idle counting ends
  · exact .inl rfl
  · exact .inr (.inl ⟨counting, rfl⟩)
  · obtain ⟨-, cleaned, finite, layout, quiet⟩ := ends
    exact .inr (.inr ⟨by simpa using idle, by omega, cleaned, finite, layout, quiet, rfl, rfl⟩)
  · exact .inl rfl

/-- The gates are open when a delivery pushes: nothing was pending when it came to its
queue, and when it comes to the note the output is neither blocked nor on hold. -/
def OpenFor (entered : Delivery) (request : DeliveryRequest) (push : Push) : Prop :=
  entered.ledger.releasePending = false ∧ ∃ earlier later,
    entered.ledger.queue = earlier ++ push.transition :: later ∧
    let state := deliverEvents request earlier (entered.mapLedger (checkRequest request))
    state.ledger.outputBlocked = false ∧ state.ledger.panicHold = false ∧
      (state.deliverEvent request push.transition).2.pushed = state.pushed ++ [push]

/-- A note-on that a delivery pushes found the output neither blocked nor on hold when the loop
came to it. -/
theorem deliverQueued_noteOn {entered : Delivery} {push : Push}
    (releases : push ∈ entered.pushed → push.transition.kind = .noteOff)
    (member : push ∈ (entered.deliverQueued request).2.pushed)
    (noteOn : push.transition.kind = .noteOn) : OpenFor entered request push := by
  have fresh : push ∉ entered.pushed := fun old => by
    rw [releases old] at noteOn
    exact absurd noteOn (by simp)
  rcases deliverQueued_cases entered request with refused | ended
  · rw [refused] at member
    exact absurd member fresh
  · rw [ended] at member
    change push ∈ (entered.beforeHold request).pushed at member
    unfold beforeHold at member
    dsimp only at member
    split_ifs at member with opened
    · rcases deliverEvents_noteOn opened.2 member noteOn with old | found
      · exact absurd old fresh
      · exact ⟨opened.1, found⟩
    · exact absurd member fresh

/-- A note-on comes out of a delivery whose gates were open when it was pushed. -/
theorem call_noteOn {next : LedgerCall} {push : Push}
    (member : push ∈ (ledger.call next).pushed) (noteOn : push.transition.kind = .noteOn) :
    ∃ request, next.delivers = some request ∧ OpenFor (ledger.entering next) request push := by
  cases next with
  | activate | deactivate => exact absurd member List.not_mem_nil
  | operation operation =>
      cases operation with
      | deliverQueued request =>
          exact ⟨request, rfl, deliverQueued_noteOn
            (fun old => absurd old List.not_mem_nil) member noteOn⟩
      | deliver request =>
          refine ⟨request, rfl, deliverQueued_noteOn (fun old => ?_) member noteOn⟩
          exact (retryPendingReleases_noteOff old).resolve_left List.not_mem_nil
      | retryPendingReleases sink =>
          have release := (retryPendingReleases_noteOff member).resolve_left List.not_mem_nil
          exact absurd (release.symm.trans noteOn) (by simp)
      | _ => exact absurd member List.not_mem_nil

/-- Between starts and stops, only a request to recover or a delivery changes a gate. -/
theorem call_guards {next : LedgerCall} (kept : next.resets = false)
    (other : next.recovers = false) (silent : next.delivers = none) :
    Guards ledger (ledger.call next).ledger := by
  cases next with
  | activate | deactivate => exact absurd kept (by simp [LedgerCall.resets])
  | operation operation =>
      cases operation with
      | activatePreservingPending maxFrames granted =>
          exact Guards.resetStorage.trans (Guards.allocateStorage maxFrames granted)
      | beginBlock => exact Guards.beginBlock
      | queueTransition transition frames => exact Guards.queueTransition transition frames
      | queueActiveReleases sampleOffset frames =>
          exact Guards.queueReleasesOf sampleOffset frames _ 0 (true, ledger)
      | requestReleaseAll => exact Guards.requestReleaseAll
      | reportOutputFailure => exact Guards.enterBlocked
      | requestRecovery => exact absurd other (by simp [LedgerCall.recovers])
      | retryPendingReleases sink =>
          have retried := @retryPendingReleases_guards { ledger } sink
          exact retried
      | deliverQueued request => exact absurd silent (by simp [LedgerCall.delivers])
      | deliver request => exact absurd silent (by simp [LedgerCall.delivers])
      | releaseStoragePreservingPending =>
          exact Guards.requestReleaseAll.trans Guards.resetStorage

/-- A delivering call keeps the gates up to its end, where it leaves the ledger or
considers the hold. -/
theorem call_delivers {next : LedgerCall} (delivers : next.delivers = some request)
    (gated : Gated ledger) :
    Guards ledger (ledger.call next).ledger ∨
      Guards ledger ((ledger.entering next).beforeHold request).ledger ∧
        (ledger.call next).ledger =
          ((ledger.entering next).beforeHold request).ledger.finishHold request := by
  have ends (entered : Delivery) (entering : Guards ledger entered.ledger) :
      Guards ledger (entered.deliverQueued request).2.ledger ∨
        Guards ledger (entered.beforeHold request).ledger ∧
          (entered.deliverQueued request).2.ledger =
            (entered.beforeHold request).ledger.finishHold request := by
    rcases deliverQueued_cases entered request with refused | ended
    · rw [refused]
      exact .inl (entering.trans ⟨fun kept => ⟨kept.notes, kept.queued, kept.cleaned, kept.blocked⟩,
        rfl, rfl, id⟩)
    · rw [ended]
      exact .inr ⟨entering.trans (beforeHold_guards (entering.gated gated)), rfl⟩
  cases next with
  | activate | deactivate => exact absurd delivers (by simp [LedgerCall.delivers])
  | operation operation =>
      cases operation with
      | deliverQueued other =>
          obtain rfl := Option.some.inj delivers
          exact ends _ (Guards.refl _)
      | deliver other =>
          obtain rfl := Option.some.inj delivers
          have retried := @retryPendingReleases_guards { ledger } other.sink
          exact ends _ retried
      | _ => exact absurd delivers (by simp [LedgerCall.delivers])

/-- While a hold is on, it was asked for, and once its countdown is over a delivery came
after the latest request. -/
def Recovering (calls : List LedgerCall) (ledger : GeneratedNoteLedger) : Prop :=
  ledger.panicHold = true → ∃ earlier later,
    calls = earlier ++ .operation .requestRecovery :: later ∧
      (∀ past ∈ later, past.recovers = false ∧ past.resets = false) ∧
      (ledger.holdCallsRemaining = 0 → ∃ past ∈ later, past.delivers.isSome = true)

/-- A call that neither resets nor recovers leaves the recovery where it is, provided that the hold
does not begin anew, and that it counts down only in a delivery. -/
theorem Recovering.step {calls : List LedgerCall} {after : GeneratedNoteLedger}
    (recovering : Recovering calls ledger) {next : LedgerCall} (kept : next.resets = false)
    (other : next.recovers = false) (hold : after.panicHold = true → ledger.panicHold = true)
    (counts : after.holdCallsRemaining = 0 →
      ledger.holdCallsRemaining = 0 ∨ next.delivers.isSome = true) :
    Recovering (calls ++ [next]) after := by
  intro held
  obtain ⟨earlier, later, split, plain, delivered⟩ := recovering (hold held)
  refine ⟨earlier, later ++ [next], by rw [split, List.append_assoc]; rfl, fun past member => ?_,
    fun elapsed => ?_⟩
  · rcases List.mem_append.mp member with old | last
    · exact plain past old
    · obtain rfl := List.mem_singleton.mp last
      exact ⟨other, kept⟩
  · rcases counts elapsed with before | now
    · obtain ⟨past, member, some_⟩ := delivered before
      exact ⟨past, List.mem_append_left _ member, some_⟩
    · exact ⟨next, List.mem_append_right _ (List.mem_singleton_self next), now⟩

/-- The ledger of the beginning has nothing for the flags to be wrong about. -/
theorem gated_reset : Gated {} :=
  ⟨fun _ occupied => absurd occupied (by simp [ActiveVoice.occupied]),
    fun _ member => absurd member List.not_mem_nil, fun _ _ => rfl,
    fun blocked => absurd blocked (by simp)⟩

/-- One call keeps what the flags say, and that a hold was asked for. The cases are those of the
operations, each with a lemma of its own. -/
theorem call_gated {calls : List LedgerCall} (gated : Gated ledger)
    (recovering : Recovering calls ledger) (next : LedgerCall) :
    Gated (ledger.call next).ledger ∧ Recovering (calls ++ [next]) (ledger.call next).ledger := by
  cases kept : next.resets with
  | true =>
      cases next with
      | operation => exact absurd kept (by simp [LedgerCall.resets])
      | activate maxFrames granted =>
          have started : Guards {} ((deactivate ledger).allocateStorage maxFrames granted).2 :=
            Guards.allocateStorage maxFrames granted
          exact ⟨started.gated gated_reset, fun held => absurd (started.hold.symm.trans held) (by simp)⟩
      | deactivate => exact ⟨gated_reset, fun held => absurd held (by simp [call, deactivate])⟩
  | false =>
      cases other : next.recovers with
      | true =>
          obtain rfl : next = .operation .requestRecovery := by
            cases next with
            | activate | deactivate => exact absurd other (by simp [LedgerCall.recovers])
            | operation operation =>
                cases operation <;> first | rfl | exact absurd other (by simp [LedgerCall.recovers])
          refine ⟨⟨gated.notes, gated.queued, gated.cleaned, gated.blocked⟩, fun _ => ?_⟩
          exact ⟨calls, [], rfl, fun _ member => absurd member List.not_mem_nil,
            fun elapsed => absurd elapsed (by simp [call, operate, requestRecovery])⟩
      | false =>
          cases delivers : next.delivers with
          | none =>
              have guards := @call_guards ledger next kept other delivers
              refine ⟨guards.gated gated, recovering.step kept other (fun held => ?_)
                fun elapsed => .inl ?_⟩
              · exact guards.hold.symm.trans held
              · exact guards.calls.symm.trans elapsed
          | some request =>
              have now : next.delivers.isSome = true := by rw [delivers]; rfl
              rcases call_delivers delivers gated with guards | ⟨guards, ended⟩
              · exact ⟨guards.gated gated, recovering.step kept other
                  (fun held => guards.hold.symm.trans held) fun _ => .inr now⟩
              · rw [ended]
                refine ⟨finishHold_gated (guards.gated gated), recovering.step kept other
                  (fun held => ?_) fun _ => .inr now⟩
                rw [← guards.hold]
                rcases finishHold_cases _ request with
                  same | ⟨-, counted⟩ | ⟨held, -⟩
                · rwa [same] at held
                · rwa [counted] at held
                · exact held

/-- The ledger after a run has flags that fit its slots, and any hold was asked for. -/
theorem run_gated (calls : List LedgerCall) :
    Gated (callMachine.run {} calls).1 ∧ Recovering calls (callMachine.run {} calls).1 := by
  induction calls using List.reverseRecOn with
  | nil => exact ⟨gated_reset, fun held => absurd held (by simp)⟩
  | append_singleton calls next ih =>
      rw [callMachine.run_concat]
      exact call_gated ih.1 ih.2 next

/-- A completed cleanup of a blocked output leaves no note. -/
theorem Gated.empty (gated : Gated ledger) (cleaned : ledger.cleanupComplete = true)
    (blocked : ledger.outputBlocked = true) (slot : Fin maxVoices) :
    (ledger.voices slot).occupied = false := by
  have idle := gated.cleaned cleaned slot
  have inactive : (ledger.voices slot).active = false :=
    Bool.eq_false_iff.mpr fun active =>
      absurd (idle.symm.trans (gated.blocked blocked slot active)) (by simp)
  rw [ActiveVoice.occupied, idle, inactive]
  rfl

/-- **The gates fail closed.** After every run, a call pushes a note-on only from a
delivery that found nothing pending, at a moment when the output is neither blocked nor
on hold. A call that takes back a block or a hold, and is no start or stop, is a
delivery after another one since the latest request to recover; the end of the hold
does it, on finite quiet input in a supported layout, with no slot pending, and when
the output was blocked with no slot occupied. -/
theorem run_gates (calls : List LedgerCall) (next : LedgerCall) :
    let before := (callMachine.run {} calls).1
    let after := before.call next
    (∀ push ∈ after.pushed, push.transition.kind = .noteOn →
      ∃ request, next.delivers = some request ∧ OpenFor (before.entering next) request push) ∧
    (next.resets = false →
      (before.outputBlocked = true ∧ after.ledger.outputBlocked = false ∨
        before.panicHold = true ∧ after.ledger.panicHold = false) →
      ∃ request, next.delivers = some request ∧
        let delivered := ((before.entering next).beforeHold request).ledger
        after.ledger = delivered.finishHold request ∧
        (before.outputBlocked = true → delivered.outputBlocked = true) ∧
        delivered.panicHold = before.panicHold ∧
        request.finiteInput = true ∧ request.supportedLayout = true ∧
        request.selectedPeak.any (· < quietPeak) = true ∧
        (∃ earlier later, calls = earlier ++ .operation .requestRecovery :: later ∧
          (∀ past ∈ later, past.recovers = false ∧ past.resets = false) ∧
          ∃ past ∈ later, past.delivers.isSome = true) ∧
        (∀ slot, (after.ledger.voices slot).pendingRelease = false) ∧
        (delivered.outputBlocked = true → ∀ slot, (after.ledger.voices slot).occupied = false)) := by
  intro before after
  obtain ⟨gated, recovering⟩ := run_gated calls
  refine ⟨fun push member noteOn => call_noteOn member noteOn, fun kept cleared => ?_⟩
  have opens {final : GeneratedNoteLedger} (same : after.ledger = final)
      (blocked : before.outputBlocked = true → final.outputBlocked = true)
      (hold : final.panicHold = before.panicHold) : False := by
    rw [same, hold] at cleared
    rcases cleared with ⟨was, is⟩ | ⟨was, is⟩
    · exact absurd ((blocked was).symm.trans is) (by simp)
    · exact absurd (was.symm.trans is) (by simp)
  cases delivers : next.delivers with
  | none =>
      cases other : next.recovers with
      | true =>
          refine absurd cleared ?_
          cases next with
          | activate | deactivate => exact absurd other (by simp [LedgerCall.recovers])
          | operation operation =>
              cases operation with
              | requestRecovery =>
                  rintro (⟨was, is⟩ | ⟨-, is⟩)
                  · exact absurd (was.symm.trans is) (by simp)
                  · exact absurd is (by simp [after, call, operate, requestRecovery])
              | _ => exact absurd other (by simp [LedgerCall.recovers])
      | false =>
          have guards := @call_guards before next kept other delivers
          exact (opens rfl guards.blocked guards.hold).elim
  | some request =>
      rcases call_delivers delivers gated with guards | ⟨guards, ended⟩
      · exact (opens rfl guards.blocked guards.hold).elim
      · rcases finishHold_cases _ request with
          same | ⟨-, counted⟩ | ⟨held, elapsed, cleaned, finite, layout, quiet, -, voices⟩
        · exact (opens (ended.trans same) guards.blocked guards.hold).elim
        · exact (opens (ended.trans counted) guards.blocked guards.hold).elim
        · obtain ⟨earlier, later, split, plain, earlierDelivery⟩ :=
            recovering (guards.hold.symm.trans held)
          have fits := guards.gated gated
          have slots : after.ledger.voices = ((before.entering next).beforeHold request).ledger.voices :=
            (congrArg GeneratedNoteLedger.voices ended).trans voices
          refine ⟨request, rfl, ended, guards.blocked, guards.hold, finite, layout, quiet,
            ⟨earlier, later, split, plain, earlierDelivery (guards.calls.symm.trans elapsed)⟩, ?_, ?_⟩
          · rw [slots]
            exact fits.cleaned cleaned
          · rw [slots]
            exact fun blocked => fits.empty cleaned blocked

/-- A delivery of quiet input in a block of sixty-four frames, with an absent sink. -/
def quietDelivery : LedgerCall :=
  .operation (.deliver
    { frames := 64, sink := none, selectedPeak := some 0, finiteInput := true,
      supportedLayout := true })

/-- A failure of an idle ledger is recovered by the second delivery after the request. -/
theorem run_gates_recovery :
    let calls := [.activate 64 true, .operation .reportOutputFailure,
      .operation .requestRecovery, quietDelivery]
    ∃ request, quietDelivery.delivers = some request ∧ request.finiteInput = true ∧
      ∃ earlier later, calls = earlier ++ .operation .requestRecovery :: later ∧
        ∃ past ∈ later, past.delivers.isSome = true := by
  intro calls
  obtain ⟨request, delivers, -, -, -, finite, -, -, ⟨earlier, later, split, -, past⟩, -⟩ :=
    (run_gates calls quietDelivery).2 rfl (.inl ⟨by decide +kernel, by decide +kernel⟩)
  exact ⟨request, delivers, finite, earlier, later, split, past⟩

end GeneratedNoteLedger

end M3Midi
