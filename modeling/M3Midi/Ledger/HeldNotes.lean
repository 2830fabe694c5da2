import M3Midi.Ledger.Accounting

/-! # What a ledger holds was taken by its sink

A slot is filled when the sink accepts a note-on, so whatever a sink asks of the
notes it accepts holds of every note in the ledger. A sink that accepts the
releases of such notes leaves nothing pending.
-/

namespace M3Midi

open Foundation

/-- Every occupied slot holds a note that fits. -/
def HoldsOnly (fits : Nat → Nat → Prop) (ledger : GeneratedNoteLedger) : Prop :=
  ∀ slot, (ledger.voices slot).occupied = true →
    fits (ledger.voices slot).note (ledger.voices slot).channel

/-- A sink accepts only notes that fit. -/
def TakesOnly (fits : Nat → Nat → Prop) (sink : NoteEventSink) : Prop :=
  ∀ answer, sink = some answer → ∀ pushed transition channel,
    answer pushed transition channel = true → fits transition.note channel

variable {fits : Nat → Nat → Prop} {ledger : GeneratedNoteLedger} {delivery : Delivery}
  {sink : NoteEventSink}

namespace HoldsOnly

open GeneratedNoteLedger

theorem of_same_voices {next : GeneratedNoteLedger} (holds : HoldsOnly fits ledger)
    (same : next.voices = ledger.voices) : HoldsOnly fits next := by
  unfold HoldsOnly
  rw [same]
  exact holds

/-- A release that is requested marks slots, and keeps their notes. -/
theorem requestReleaseAll (holds : HoldsOnly fits ledger) :
    HoldsOnly fits ledger.requestReleaseAll := by
  intro slot occupied
  refine holds slot ?_
  simpa [GeneratedNoteLedger.requestReleaseAll, ActiveVoice.occupied] using occupied

/-- The latch of the output keeps the notes of the slots. -/
theorem enterBlocked (holds : HoldsOnly fits ledger) : HoldsOnly fits ledger.enterBlocked :=
  requestReleaseAll (holds.of_same_voices rfl)

/-- The storage of the queue has nothing to do with the slots. -/
theorem allocateStorage (holds : HoldsOnly fits ledger) (maxFrames : Nat) (granted : Bool) :
    HoldsOnly fits (ledger.allocateStorage maxFrames granted).2 := by
  dsimp only [GeneratedNoteLedger.allocateStorage]
  split_ifs <;> exact holds

/-- An activation that preserves the pending notes adds none. -/
theorem activatePreservingPending (holds : HoldsOnly fits ledger) (maxFrames : Nat)
    (granted : Bool) : HoldsOnly fits (ledger.activatePreservingPending maxFrames granted).2 := by
  have reset : HoldsOnly fits ledger.resetStorage := holds
  exact reset.allocateStorage maxFrames granted

/-- A queued transition is not held yet. -/
theorem queueTransition (holds : HoldsOnly fits ledger) (transition : VoiceTransition)
    (frames : Nat) : HoldsOnly fits (ledger.queueTransition transition frames).2 := by
  dsimp only [GeneratedNoteLedger.queueTransition]
  split_ifs <;> exact holds

/-- The end of a hold touches no slot. -/
theorem finishHold (holds : HoldsOnly fits ledger) (request : DeliveryRequest) :
    HoldsOnly fits (ledger.finishHold request) := by
  unfold GeneratedNoteLedger.finishHold
  split_ifs <;> exact holds

/-- A slot that is rewritten holds a note that fits, or none. -/
theorem update (holds : HoldsOnly fits ledger) {slot : Fin maxVoices} {voice : ActiveVoice}
    (fit : voice.occupied = true → fits voice.note voice.channel) :
    HoldsOnly fits { ledger with voices := Function.update ledger.voices slot voice } := by
  intro other occupied
  dsimp only at occupied ⊢
  by_cases same : other = slot
  · subst same
    rw [Function.update_self] at occupied ⊢
    exact fit occupied
  · rw [Function.update_of_ne same] at occupied ⊢
    exact holds other occupied

/-- A slot that is cleared holds none. -/
theorem clearVoice (holds : HoldsOnly fits ledger) (slot : Fin maxVoices) :
    HoldsOnly fits (ledger.clearVoice slot) := by
  have cleared : HoldsOnly fits { ledger with voices := Function.update ledger.voices slot {} } :=
    holds.update fun occupied => absurd occupied (by decide)
  exact cleared.of_same_voices rfl

/-- A slot that is marked keeps its note. -/
theorem markPending (holds : HoldsOnly fits ledger) {slot : Fin maxVoices}
    (occupied : (ledger.voices slot).occupied = true) :
    HoldsOnly fits (Delivery.markPending slot ledger) :=
  holds.update fun _ => holds slot occupied

/-- The note of an accepted note-on is held on the channel it was sent to. -/
theorem occupyVoice (holds : HoldsOnly fits ledger) (slot : Fin maxVoices) {event : VoiceTransition}
    {channel : Nat} (fit : fits event.note channel) :
    HoldsOnly fits (Delivery.occupyVoice slot event channel ledger) := by
  have fitting (voice : ActiveVoice) (note : voice.note = event.note)
      (sent : voice.channel = channel) :
      HoldsOnly fits { ledger with voices := Function.update ledger.voices slot voice } :=
    holds.update fun _ => by rwa [note, sent]
  exact (fitting _ rfl rfl).of_same_voices rfl

end HoldsOnly

namespace Delivery

open GeneratedNoteLedger

/-- A push leaves the ledger alone. -/
theorem push_ledger {transition : VoiceTransition} {channel : Nat} {accepted : Bool}
    {next : Delivery} (pushed : delivery.push sink transition channel = (accepted, next)) :
    next.ledger = delivery.ledger := by
  rcases push_cases delivery sink transition channel with failed | ⟨answer, answered⟩
  · exact congrArg (fun outcome => outcome.2.ledger) (pushed.symm.trans failed)
  · exact congrArg (fun outcome => outcome.2.ledger) (pushed.symm.trans answered)

/-- What a sink accepts fits. -/
theorem push_fits (takes : TakesOnly fits sink) {transition : VoiceTransition} {channel : Nat}
    {next : Delivery} (pushed : delivery.push sink transition channel = (true, next)) :
    fits transition.note channel := by
  cases sink with
  | none => exact absurd (congrArg Prod.fst pushed) (by simp [push])
  | some answer =>
      unfold push at pushed
      dsimp only at pushed
      split_ifs at pushed
      · exact takes answer rfl delivery.pushed transition channel (congrArg Prod.fst pushed)
      · exact absurd (congrArg Prod.fst pushed) (by simp)

/-- Releases that are tried again clear slots, and never fill one. -/
theorem retryReleases_holds (holds : HoldsOnly fits delivery.ledger)
    (pending : List (Nat × Fin maxVoices)) :
    HoldsOnly fits (retryReleases sink pending delivery).2.ledger := by
  induction pending generalizing delivery with
  | nil => exact holds
  | cons next rest ih =>
      obtain ⟨note, slot⟩ := next
      dsimp only [retryReleases]
      split_ifs
      · exact ih holds
      · split
        · rename_i rejected pushed
          exact (holds.of_same_voices (congrArg voices (push_ledger pushed))).enterBlocked
        · rename_i accepted pushed
          refine ih ?_
          exact (holds.of_same_voices (congrArg voices (push_ledger pushed))).clearVoice slot

/-- The whole retry adds no note. -/
theorem retryPendingReleases_holds (holds : HoldsOnly fits delivery.ledger) :
    HoldsOnly fits (delivery.retryPendingReleases sink).2.ledger := by
  unfold retryPendingReleases
  split_ifs
  · exact holds
  · have retried : HoldsOnly fits (retryReleases sink retryOrder delivery).2.ledger :=
      retryReleases_holds holds retryOrder
    split
    · rename_i rejected outcome
      rwa [outcome] at retried
    · rename_i released outcome
      rw [outcome] at retried
      exact retried.of_same_voices rfl

/-- A delivered note-off adds no note. -/
theorem deliverNoteOff_holds (holds : HoldsOnly fits delivery.ledger) (event : VoiceTransition) :
    HoldsOnly fits (delivery.deliverNoteOff sink event).2.ledger := by
  unfold deliverNoteOff
  split
  · exact holds.enterBlocked
  · rename_i slot found
    split
    · rename_i rejected pushed
      have occupied : (delivery.ledger.voices slot).occupied = true := by
        have held := firstSlot_spec found
        simp only [GeneratedNoteLedger.holds, Bool.and_eq_true] at held
        exact held.1.1
      have marked := (holds.markPending occupied).enterBlocked
      rwa [← push_ledger pushed] at marked
    · rename_i accepted pushed
      exact (holds.of_same_voices (congrArg voices (push_ledger pushed))).clearVoice slot

/-- A delivered note-on is held only if the sink has taken it, and the sink takes only what fits.
-/
theorem deliverNoteOn_holds (holds : HoldsOnly fits delivery.ledger) {request : DeliveryRequest}
    (takes : TakesOnly fits request.sink) (event : VoiceTransition) :
    HoldsOnly fits (delivery.deliverNoteOn request event).2.ledger := by
  unfold deliverNoteOn
  split_ifs
  · exact holds
  · exact holds.enterBlocked
  · exact holds.enterBlocked
  · dsimp only
    split
    · exact holds.enterBlocked
    · rename_i slot free
      split_ifs
      · exact holds.enterBlocked
      · split
        · rename_i rejected pushed
          exact (holds.of_same_voices (congrArg voices (push_ledger pushed))).enterBlocked
        · rename_i accepted pushed
          have kept := holds.of_same_voices (congrArg voices (push_ledger pushed))
          exact kept.occupyVoice slot (push_fits takes pushed)

/-- The loop over the events holds only what fits, by induction on the events. -/
theorem deliverEvents_holds (holds : HoldsOnly fits delivery.ledger) {request : DeliveryRequest}
    (takes : TakesOnly fits request.sink) (events : List VoiceTransition) :
    HoldsOnly fits (deliverEvents request events delivery).ledger := by
  induction events generalizing delivery with
  | nil => exact holds
  | cons event events ih =>
      have delivered : HoldsOnly fits (delivery.deliverEvent request event).2.ledger := by
        unfold deliverEvent
        split_ifs
        · exact holds
        · cases event.kind with
          | noteOff => exact deliverNoteOff_holds holds event
          | noteOn => exact deliverNoteOn_holds holds takes event
      unfold deliverEvents
      split
      · rename_i next outcome
        rw [outcome] at delivered
        exact ih delivered
      · rename_i blocked outcome
        rwa [outcome] at delivered

/-- A delivery fills slots with what the sink accepts, and with nothing else. -/
theorem deliverQueued_holds (holds : HoldsOnly fits delivery.ledger) {request : DeliveryRequest}
    (takes : TakesOnly fits request.sink) :
    HoldsOnly fits (delivery.deliverQueued request).2.ledger := by
  have checked : HoldsOnly fits (delivery.mapLedger (checkRequest request)).ledger := holds
  dsimp only [deliverQueued]
  split_ifs
  · exact holds
  · exact (deliverEvents_holds checked takes _).finishHold request
  · exact checked.finishHold request

/-- Of the slots that a finished retry visits, none is left pending. By induction on what remains.
A slot that is cleared is not filled again. -/
theorem retryReleases_left {pending : List (Nat × Fin maxVoices)}
    (finished : (retryReleases sink pending delivery).1 = true) :
    ∀ slot, ((retryReleases sink pending delivery).2.ledger.voices slot).pendingRelease = true →
      (retryReleases sink pending delivery).2.ledger.voices slot = delivery.ledger.voices slot ∧
        ((delivery.ledger.voices slot).note, slot) ∉ pending := by
  induction pending generalizing delivery with
  | nil => exact fun slot _ => ⟨rfl, List.not_mem_nil⟩
  | cons next rest ih =>
      obtain ⟨note, target⟩ := next
      dsimp only [retryReleases] at finished ⊢
      by_cases skipped : (delivery.ledger.voices target).pendingRelease = false ∨
          (delivery.ledger.voices target).note ≠ note
      · rw [if_pos skipped] at finished ⊢
        intro slot waits
        obtain ⟨same, outside⟩ := ih finished slot waits
        refine ⟨same, fun member => ?_⟩
        rcases List.mem_cons.mp member with here | later
        · obtain ⟨named, rfl⟩ := Prod.mk.inj here
          rw [same] at waits
          rcases skipped with idle | other
          · exact absurd (waits.symm.trans idle) (by simp)
          · exact other named
        · exact outside later
      · rw [if_neg skipped] at finished ⊢
        cases pushed : delivery.push sink (pendingRelease (delivery.ledger.voices target) note)
            (delivery.ledger.voices target).channel with
        | mk accepted pushing =>
            rw [pushed] at finished
            cases accepted with
            | false => exact absurd finished (by simp)
            | true =>
                dsimp only at finished ⊢
                have ledger := push_ledger pushed
                intro slot waits
                obtain ⟨same, outside⟩ := ih finished slot waits
                by_cases here : slot = target
                · subst here
                  rw [same] at waits
                  simp [mapLedger, clearVoice] at waits
                · have untouched : (pushing.ledger.clearVoice target).voices slot =
                      delivery.ledger.voices slot :=
                    (Function.update_of_ne here _ _).trans
                      (congrArg (fun kept => kept.voices slot) ledger)
                  refine ⟨same.trans untouched, fun member => ?_⟩
                  rcases List.mem_cons.mp member with visited | later
                  · exact here (congrArg Prod.snd visited)
                  · refine outside ?_
                    change (((pushing.ledger.clearVoice target).voices slot).note, slot) ∈ rest
                    rwa [untouched]

/-- A finished retry leaves no pending note of the range it visits. -/
theorem retryPendingReleases_left (finished : (delivery.retryPendingReleases sink).1 = true)
    (notes : ∀ slot, (delivery.ledger.voices slot).pendingRelease = true →
      (delivery.ledger.voices slot).note ≤ 127) :
    (delivery.retryPendingReleases sink).2.ledger.releasePending = false := by
  unfold retryPendingReleases at finished ⊢
  by_cases idle : delivery.ledger.releasePending = false
  · rw [if_pos idle]
    exact idle
  · rw [if_neg idle] at finished ⊢
    cases outcome : retryReleases sink retryOrder delivery with
    | mk accepted released =>
        rw [outcome] at finished
        cases accepted with
        | false => exact absurd finished (by simp)
        | true =>
            have left := retryReleases_left (congrArg Prod.fst outcome)
            rw [outcome] at left
            change released.ledger.releasePending = false
            refine List.any_eq_false.mpr fun slot _ waits => ?_
            obtain ⟨same, outside⟩ := left slot waits
            have small := notes slot (by rw [← same]; exact waits)
            refine outside ?_
            simp only [retryOrder, List.mem_flatMap, List.mem_range, List.mem_map]
            exact ⟨_, Nat.lt_succ_of_le small, slot, List.mem_finRange slot, rfl⟩

section Release

/-- A sink that accepts the release of every note that fits. -/
def Releases (fits : Nat → Nat → Prop) (sink : NoteEventSink) : Prop :=
  ∃ answer, sink = some answer ∧ ∀ pushed voice note, fits voice.note voice.channel →
    (1 ≤ voice.channel ∧ voice.channel ≤ 16) ∧
      answer pushed (Delivery.pendingRelease voice note) voice.channel = true

/-- A retry whose releases are all accepted finishes. -/
theorem retryReleases_finished (holds : HoldsOnly fits delivery.ledger)
    (releases : Releases fits sink) (pending : List (Nat × Fin maxVoices)) :
    (retryReleases sink pending delivery).1 = true := by
  induction pending generalizing delivery with
  | nil => rfl
  | cons next rest ih =>
      obtain ⟨note, target⟩ := next
      dsimp only [retryReleases]
      by_cases skipped : (delivery.ledger.voices target).pendingRelease = false ∨
          (delivery.ledger.voices target).note ≠ note
      · rw [if_pos skipped]
        exact ih holds
      · rw [if_neg skipped]
        simp only [not_or, Bool.not_eq_false, not_not] at skipped
        have occupied : (delivery.ledger.voices target).occupied = true := by
          rw [ActiveVoice.occupied, skipped.1, Bool.or_true]
        obtain ⟨answer, rfl, accepts⟩ := releases
        obtain ⟨range, taken⟩ := accepts delivery.pushed (delivery.ledger.voices target) note
          (holds target occupied)
        have pushed : delivery.push (some answer)
            (pendingRelease (delivery.ledger.voices target) note)
            (delivery.ledger.voices target).channel =
            (true, { delivery with pushed := delivery.pushed ++
              [⟨pendingRelease (delivery.ledger.voices target) note,
                (delivery.ledger.voices target).channel, true⟩] }) := by
          unfold push
          dsimp only
          rw [if_pos range, taken]
        rw [pushed]
        exact ih (holds.clearVoice target)

/-- A retry whose releases are all accepted leaves nothing pending. -/
theorem retryPendingReleases_released (holds : HoldsOnly fits delivery.ledger)
    (notes : ∀ note channel, fits note channel → note ≤ 127) (releases : Releases fits sink) :
    (delivery.retryPendingReleases sink).1 = true ∧
      (delivery.retryPendingReleases sink).2.ledger.releasePending = false := by
  have finished : (delivery.retryPendingReleases sink).1 = true := by
    have retried := retryReleases_finished holds releases retryOrder
    unfold retryPendingReleases
    split_ifs
    · rfl
    · cases outcome : retryReleases sink retryOrder delivery with
      | mk accepted released =>
          rw [outcome] at retried
          obtain rfl : accepted = true := retried
          rfl
  refine ⟨finished, retryPendingReleases_left finished fun slot waits => ?_⟩
  refine notes _ _ (holds slot ?_)
  rw [ActiveVoice.occupied, waits, Bool.or_true]

end Release

end Delivery

end M3Midi
