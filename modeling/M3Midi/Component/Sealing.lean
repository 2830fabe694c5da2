import M3Midi.Component.Soundness
import M3Midi.Ledger.VoiceIdentity

/-! # Silence behind a boundary

Opening a structural boundary asks for the release of every note, and until the
commit nothing is queued. So while a boundary is open each active note waits for its
release (`M3Midi.Sealed`); every part of a block keeps that.
-/

namespace M3Midi

open Foundation

/-- Every active note waits for its release. -/
def Silenced (ledger : GeneratedNoteLedger) : Prop :=
  ∀ slot, (ledger.voices slot).active = true → (ledger.voices slot).pendingRelease = true

namespace Silenced

open GeneratedNoteLedger

variable {ledger : GeneratedNoteLedger}

/-- A release that is requested leaves no active slot without its mark. -/
theorem requestReleaseAll (ledger : GeneratedNoteLedger) : Silenced ledger.requestReleaseAll :=
  fun _ active => Bool.or_eq_true_iff.mpr (.inl active)

/-- The latch of the output marks every active slot. -/
theorem enterBlocked (ledger : GeneratedNoteLedger) : Silenced ledger.enterBlocked :=
  requestReleaseAll _

/-- A slot that is cleared is not active any more. -/
theorem clearVoice (silenced : Silenced ledger) (slot : Fin maxVoices) :
    Silenced (ledger.clearVoice slot) := by
  intro other
  change (Function.update ledger.voices slot {} other).active = true →
    (Function.update ledger.voices slot {} other).pendingRelease = true
  by_cases same : other = slot
  · subst same
    rw [Function.update_self]
    exact fun active => absurd active (by decide)
  · rw [Function.update_of_ne same]
    exact silenced other

/-- The end of a hold touches no slot. -/
theorem finishHold (silenced : Silenced ledger) (request : DeliveryRequest) :
    Silenced (ledger.finishHold request) := by
  unfold GeneratedNoteLedger.finishHold
  split_ifs <;> exact silenced

/-- With nothing pending, no slot is occupied. -/
theorem free (silenced : Silenced ledger) (released : ledger.releasePending = false)
    (slot : Fin maxVoices) : (ledger.voices slot).occupied = false := by
  have idle : (ledger.voices slot).pendingRelease = false :=
    Bool.eq_false_iff.mpr (List.any_eq_false.mp released slot (List.mem_finRange slot))
  have inactive : (ledger.voices slot).active = false :=
    Bool.eq_false_iff.mpr fun active => absurd (idle.symm.trans (silenced slot active)) (by simp)
  rw [ActiveVoice.occupied, idle, inactive]
  rfl

end Silenced

namespace Delivery

open GeneratedNoteLedger

variable {delivery : Delivery} {sink : NoteEventSink}

/-- Nothing is queued, and nothing sounds without waiting for its release. -/
def Waiting (ledger : GeneratedNoteLedger) : Prop := ledger.queue = [] ∧ Silenced ledger

/-- Releases that are tried again clear slots or mark them all. -/
theorem retryReleases_silenced (silenced : Silenced delivery.ledger)
    (pending : List (Nat × Fin maxVoices)) :
    Silenced (retryReleases sink pending delivery).2.ledger := by
  induction pending generalizing delivery with
  | nil => exact silenced
  | cons next rest ih =>
      obtain ⟨note, slot⟩ := next
      dsimp only [retryReleases]
      split_ifs
      · exact ih silenced
      · split
        · exact Silenced.enterBlocked _
        · rename_i accepted pushed
          rw [← push_ledger pushed] at silenced
          exact @ih (accepted.mapLedger fun ledger => ledger.clearVoice slot)
            (silenced.clearVoice slot)

/-- A retry keeps the queue, and silence. -/
theorem retryPendingReleases_waits :
    (delivery.retryPendingReleases sink).2.ledger.queue = delivery.ledger.queue ∧
      (Silenced delivery.ledger → Silenced (delivery.retryPendingReleases sink).2.ledger) := by
  have queue : (retryReleases sink retryOrder delivery).2.ledger.queue = delivery.ledger.queue :=
    retryReleases_queue retryOrder
  have silence (silenced : Silenced delivery.ledger) :
      Silenced (retryReleases sink retryOrder delivery).2.ledger :=
    retryReleases_silenced silenced retryOrder
  unfold retryPendingReleases
  split_ifs
  · exact ⟨rfl, id⟩
  · cases outcome : retryReleases sink retryOrder delivery with
    | mk accepted released =>
        rw [outcome] at queue silence
        cases accepted <;> exact ⟨queue, silence⟩

/-- Where nothing is delivered, a delivery pushes nothing and keeps the voices. -/
theorem deliverQueued_quiet {request : DeliveryRequest}
    (quiet : delivery.ledger.queue = [] ∨ delivery.ledger.outputBlocked = true) :
    (delivery.deliverQueued request).2.pushed = delivery.pushed ∧
      (Silenced delivery.ledger → Silenced (delivery.deliverQueued request).2.ledger) := by
  rcases deliverQueued_cases delivery request with refused | ended
  · rw [refused]
    exact ⟨rfl, id⟩
  · have same : delivery.beforeHold request = delivery.mapLedger (checkRequest request) := by
      unfold beforeHold
      dsimp only
      split_ifs with opened
      · rcases quiet with empty | blocked
        · have none : (delivery.mapLedger (checkRequest request)).ledger.queue = [] := empty
          rw [none]
          rfl
        · exact absurd (opened.2.symm.trans blocked) (by simp)
      · rfl
    rw [ended, same]
    refine ⟨rfl, fun silenced => ?_⟩
    have checked : Silenced (checkRequest request delivery.ledger) := silenced
    exact checked.finishHold request

end Delivery

/-- A component between two calls, against the pushes so far: its ledger accounts for
them, nothing is queued, and behind an open boundary all notes wait for their release. -/
structure Sealed (log : List Push) (component : M3Component) : Prop where
  accounts : GeneratedNoteLedger.Accounts log component.generatedNotes
  idle : component.generatedNotes.queue = []
  silenced : component.structuralBoundaryPending = true → Silenced component.generatedNotes

namespace Sealed

open GeneratedNoteLedger

variable {log : List Push} {component next : M3Component}

theorem of_same (held : Sealed log component)
    (notes : next.generatedNotes = component.generatedNotes)
    (pending : next.structuralBoundaryPending = true →
      component.structuralBoundaryPending = true) : Sealed log next := by
  refine ⟨notes ▸ held.accounts, notes ▸ held.idle, fun waits => ?_⟩
  rw [notes]
  exact held.silenced (pending waits)

/-- A recovery that is requested changes flags, and no slot. -/
theorem requestRecovery {ledger : GeneratedNoteLedger} (accounts : Accounts log ledger) :
    Accounts log ledger.requestRecovery :=
  accounts.of_same_notes (fun _ => rfl) accounts.pending_active rfl accounts.queue_voices

/-- A status that is raised breaks no seal. -/
theorem raise (held : Sealed log component) (status : Status) :
    Sealed log (component.raiseStatus status) := by
  unfold M3Component.raiseStatus
  split_ifs
  · exact held.of_same rfl id
  · exact held

/-- A claim that is given up breaks no seal. -/
theorem dropClaim (held : Sealed log component) : Sealed log component.dropClaim := by
  unfold M3Component.dropClaim
  split_ifs
  · exact held.of_same rfl id
  · exact held

end Sealed

namespace M3Component

/-- Whether a boundary is pending is part of the core. -/
theorem pending_of_core {first second : M3Component} (same : first.core = second.core) :
    first.structuralBoundaryPending = second.structuralBoundaryPending :=
  show first.core.structuralBoundaryPending = second.core.structuralBoundaryPending from
    congrArg structuralBoundaryPending same

/-- A search for the preparation changes what is claimed and the status only. -/
theorem claimMatchingPreparedConfig_kept (component : M3Component) :
    component.claimMatchingPreparedConfig.generatedNotes = component.generatedNotes ∧
      component.claimMatchingPreparedConfig.activeConfig = component.activeConfig ∧
      component.claimMatchingPreparedConfig.detector = component.detector := by
  have raised (status : Status) (other : M3Component) :
      (other.raiseStatus status).generatedNotes = other.generatedNotes ∧
        (other.raiseStatus status).activeConfig = other.activeConfig ∧
        (other.raiseStatus status).detector = other.detector := by
    unfold raiseStatus
    split_ifs <;> exact ⟨rfl, rfl, rfl⟩
  unfold claimMatchingPreparedConfig
  dsimp only
  split_ifs
  · exact ⟨rfl, rfl, rfl⟩
  · exact raised _ _
  · exact ⟨rfl, rfl, rfl⟩
  · exact raised _ _

/-- A commit keeps the notes, and closes the boundary or leaves it open. -/
theorem commitPreparedConfigIfReleased_kept (component : M3Component) :
    component.commitPreparedConfigIfReleased.generatedNotes = component.generatedNotes ∧
      (component.commitPreparedConfigIfReleased.structuralBoundaryPending = true →
        component.structuralBoundaryPending = true) := by
  have raised (status : Status) (other : M3Component) :
      (other.raiseStatus status).generatedNotes = other.generatedNotes := by
    unfold raiseStatus
    split_ifs <;> rfl
  have adopted (other : M3Component) (claim : Claim) :
      (other.adoptPreparedConfig claim).generatedNotes = other.generatedNotes := by
    unfold adoptPreparedConfig
    dsimp only
    split_ifs
    · exact raised _ _
    · rfl
    · rfl
  unfold commitPreparedConfigIfReleased
  by_cases settled : component.structuralBoundaryPending = false
  · rw [if_pos settled]
    exact ⟨rfl, id⟩
  · rw [if_neg settled]
    refine ⟨?_, fun _ => by simpa using settled⟩
    have claimed : (if component.preparedClaimPending = true then component
        else component.claimMatchingPreparedConfig).generatedNotes = component.generatedNotes := by
      split_ifs
      · rfl
      · exact (claimMatchingPreparedConfig_kept component).1
    dsimp only
    generalize (if component.preparedClaimPending = true then component
      else component.claimMatchingPreparedConfig) = next at claimed ⊢
    split_ifs
    · exact (raised _ _).trans claimed
    · split
      · exact claimed
      · exact (adopted _ _).trans claimed

/-- A commit swaps the configuration: it changes the one that runs, the detector, or the
boundary. -/
def Swaps (component : M3Component) : Prop :=
  let committed := component.commitPreparedConfigIfReleased
  committed.activeConfig ≠ component.activeConfig ∨ committed.detector ≠ component.detector ∨
    committed.structuralBoundaryPending ≠ component.structuralBoundaryPending

/-- A swap happens behind an open boundary, with no release pending. -/
theorem Swaps.released {component : M3Component} (swaps : component.Swaps) :
    component.structuralBoundaryPending = true ∧
      component.generatedNotes.releasePending = false := by
  unfold Swaps commitPreparedConfigIfReleased at swaps
  by_cases settled : component.structuralBoundaryPending = false
  · rw [if_pos settled] at swaps
    rcases swaps with config | detector | boundary
    · exact absurd rfl config
    · exact absurd rfl detector
    · exact absurd rfl boundary
  · rw [if_neg settled] at swaps
    refine ⟨by simpa using settled, Bool.eq_false_iff.mpr fun pending => ?_⟩
    have claimed : (if component.preparedClaimPending = true then component
          else component.claimMatchingPreparedConfig).generatedNotes = component.generatedNotes ∧
        (if component.preparedClaimPending = true then component
          else component.claimMatchingPreparedConfig).activeConfig = component.activeConfig ∧
        (if component.preparedClaimPending = true then component
          else component.claimMatchingPreparedConfig).detector = component.detector ∧
        (if component.preparedClaimPending = true then component
          else component.claimMatchingPreparedConfig).structuralBoundaryPending =
            component.structuralBoundaryPending := by
      split_ifs
      · exact ⟨rfl, rfl, rfl, rfl⟩
      · obtain ⟨notes, config, detector⟩ := claimMatchingPreparedConfig_kept component
        exact ⟨notes, config, detector, (claimMatchingPreparedConfig_frame component).1⟩
    dsimp only at swaps
    generalize (if component.preparedClaimPending = true then component
      else component.claimMatchingPreparedConfig) = next at claimed swaps
    obtain ⟨notes, config, detector, boundary⟩ := claimed
    rw [if_pos (.inr (by rw [notes]; exact pending))] at swaps
    have raised : (next.raiseStatus .reconfiguring).activeConfig = next.activeConfig ∧
        (next.raiseStatus .reconfiguring).detector = next.detector ∧
        (next.raiseStatus .reconfiguring).structuralBoundaryPending =
          next.structuralBoundaryPending := by
      unfold raiseStatus
      split_ifs <;> exact ⟨rfl, rfl, rfl⟩
    rcases swaps with differs | differs | differs
    · exact differs (raised.1.trans config)
    · exact differs (raised.2.1.trans detector)
    · exact differs (raised.2.2.trans boundary)

end M3Component

namespace Sealed

open GeneratedNoteLedger

variable {log : List Push} {component : M3Component}

/-- The search for the matching configuration breaks no seal. -/
theorem claimMatchingPreparedConfig (held : Sealed log component) :
    Sealed log component.claimMatchingPreparedConfig :=
  held.of_same (M3Component.claimMatchingPreparedConfig_kept component).1 fun pending =>
    (M3Component.claimMatchingPreparedConfig_frame component).1.symm.trans pending

/-- Opening a boundary silences the ledger. -/
theorem beginStructuralBoundary (held : Sealed log component) (config : PersistentConfig) :
    Sealed log (component.beginStructuralBoundary config) := by
  unfold M3Component.beginStructuralBoundary
  split_ifs
  · exact held
  · have dropped := held.dropClaim
    exact claimMatchingPreparedConfig ⟨requestReleaseAll_accounts dropped.accounts, dropped.idle,
      fun _ => Silenced.requestReleaseAll _⟩

/-- The parameters of a block keep the seal: a boundary that they open releases all notes at once.
-/
theorem applyBatch (held : Sealed log component) (batch : ParameterBatch) :
    Sealed log (component.applyBatch batch) := by
  unfold M3Component.applyBatch
  split_ifs
  · exact held
  · exact held.beginStructuralBoundary _
  · exact held.of_same rfl id

/-- A panic releases all notes, and breaks no seal. -/
theorem applyPanic (held : Sealed log component) (panic : Bool) :
    Sealed log (component.applyPanic panic) := by
  have recovered : Sealed log component.requestPanicRecovery :=
    ⟨requestRecovery (requestReleaseAll_accounts held.accounts), held.idle,
      fun _ => Silenced.requestReleaseAll _⟩
  unfold M3Component.applyPanic
  split_ifs
  · exact recovered
  · exact recovered.of_same rfl id
  · exact held

/-- A bank that is taken over breaks no seal. -/
theorem applyCalibrationRestore (held : Sealed log component) :
    Sealed log component.applyCalibrationRestore := by
  unfold M3Component.applyCalibrationRestore
  split
  · exact held
  · split_ifs
    · exact held
    · exact held.of_same rfl id

/-- All that a block does before its samples keeps the seal. -/
theorem applyBoundary (held : Sealed log component) (batch : ParameterBatch) :
    Sealed log (component.applyBoundary batch) :=
  ((held.applyBatch batch).applyPanic batch.panic).applyCalibrationRestore

/-- A refused call breaks no seal. -/
theorem refuseCall (held : Sealed log component) : Sealed log component.refuseCall := by
  have raised := held.raise .invalidInputOrState
  exact ⟨enterBlocked_accounts raised.accounts, raised.idle, fun _ => Silenced.enterBlocked _⟩

end Sealed

/-- A component in the middle of a call, against the pushes before the call. The pushes of the call
are counted with those before it. -/
structure SealedIn (log : List Push) (processing : Processing) : Prop where
  accounts : Delivery.Accounts log processing.delivery
  waits : processing.component.structuralBoundaryPending = true →
    Delivery.Waiting processing.component.generatedNotes

namespace SealedIn

open GeneratedNoteLedger

variable {log : List Push} {processing : Processing}

/-- A block begins with the component as it is. -/
theorem enter {component : M3Component} (held : Sealed log component) :
    SealedIn log { component } := by
  refine ⟨?_, fun pending => ⟨held.idle, held.silenced pending⟩⟩
  unfold Delivery.Accounts
  rw [show Processing.delivery { component } = { ledger := component.generatedNotes } from rfl,
    List.append_nil]
  exact held.accounts

/-- What a retry of a call leaves in its component. -/
theorem retry_view (processing : Processing) (events : EventList) :
    (processing.retryPendingReleases events).delivery =
        (processing.delivery.retryPendingReleases (vst3EventSink events)).2 ∧
      (processing.retryPendingReleases events).component.structuralBoundaryPending =
        processing.component.structuralBoundaryPending := by
  refine ⟨?_, M3Component.pending_of_core (processing.core_retryPendingReleases events)⟩
  unfold Processing.retryPendingReleases
  dsimp only
  have raised (status : Status) (other : M3Component) :
      (other.raiseStatus status).generatedNotes = other.generatedNotes := by
    unfold M3Component.raiseStatus
    split_ifs <;> rfl
  split_ifs
  · exact congrArg (Delivery.mk · _) (raised _ _)
  · rfl
  · rfl

/-- Releases that are tried again keep the seal, with what they push added to the log. -/
theorem retryPendingReleases (held : SealedIn log processing) (events : EventList) :
    SealedIn log (processing.retryPendingReleases events) := by
  obtain ⟨delivery, boundary⟩ := retry_view processing events
  obtain ⟨queue, silence⟩ :=
    @Delivery.retryPendingReleases_waits processing.delivery (vst3EventSink events)
  have ledger := congrArg Delivery.ledger delivery
  refine ⟨?_, fun pending => ?_⟩
  · rw [delivery]
    exact Delivery.retryPendingReleases_accounts held.accounts _
  · obtain ⟨empty, silenced⟩ := held.waits (boundary.symm.trans pending)
    change (processing.retryPendingReleases events).component.generatedNotes = _ at ledger
    rw [ledger]
    exact ⟨queue.trans empty, silence silenced⟩

/-- What a delivery of a call leaves in its component. -/
theorem deliver_view (processing : Processing) (data : ProcessData) (finiteInput : Bool)
    (supportedLayout : Bool) (selectedPeak : Option ℚ) :
    (processing.deliverGeneratedNotes data finiteInput supportedLayout selectedPeak).delivery =
        (processing.delivery.deliverQueued {
          frames := data.numSamples.toNat
          sink := vst3EventSink data.outputEvents
          selectedPeak, finiteInput, supportedLayout
          routing := processing.component.activeConfig.midiRouting
          startChannel := processing.component.activeConfig.midiChannel }).2 ∧
      (processing.deliverGeneratedNotes data finiteInput supportedLayout
        selectedPeak).component.structuralBoundaryPending =
          processing.component.structuralBoundaryPending := by
  have updated (result : NoteDeliveryResult) (other : M3Component) :
      (other.updateDeliveryStatus result).generatedNotes = other.generatedNotes := by
    have raised (status : Status) : (other.raiseStatus status).generatedNotes =
        other.generatedNotes := by
      unfold M3Component.raiseStatus
      split_ifs <;> rfl
    unfold M3Component.updateDeliveryStatus
    split_ifs
    · exact raised _
    · exact raised _
    · rfl
    · rfl
  refine ⟨?_, M3Component.pending_of_core
    (processing.core_deliverGeneratedNotes data finiteInput supportedLayout selectedPeak)⟩
  unfold Processing.deliverGeneratedNotes
  dsimp only
  split_ifs
  · rfl
  · exact congrArg (Delivery.mk · _) (updated _ _)

end SealedIn

/-- A delivery pushes after what was pushed before. -/
theorem Delivery.deliverEvents_grows {request : DeliveryRequest} {delivery : Delivery}
    (events : List VoiceTransition) :
    delivery.pushed <+: (Delivery.deliverEvents request events delivery).pushed := by
  induction events generalizing delivery with
  | nil => exact List.prefix_refl _
  | cons event events ih =>
      have outcome : Outcome delivery event (delivery.deliverEvent request event) :=
        deliverEvent_outcome event
      have here : delivery.pushed <+: (delivery.deliverEvent request event).2.pushed := by
        rcases outcome.pushed with same | ⟨push, appended, -⟩
        · rw [same]
        · rw [appended]
          exact List.prefix_append _ _
      unfold Delivery.deliverEvents
      generalize delivery.deliverEvent request event = delivered at here ⊢
      obtain ⟨goes, next⟩ := delivered
      cases goes with
      | true => exact here.trans ih
      | false => exact here

/-- A delivery adds to what has been pushed and takes nothing back. -/
theorem Delivery.deliverQueued_grows (delivery : Delivery) (request : DeliveryRequest) :
    delivery.pushed <+: (delivery.deliverQueued request).2.pushed := by
  rcases deliverQueued_cases delivery request with refused | ended
  · rw [refused]
    exact List.prefix_refl _
  · rw [ended]
    change delivery.pushed <+: (delivery.beforeHold request).pushed
    unfold beforeHold
    dsimp only
    split_ifs
    · exact @deliverEvents_grows request (delivery.mapLedger (checkRequest request)) _
    · exact List.prefix_refl _

namespace M3Component

/-- The call as it comes to its commit; absent when it does not. -/
def beforeCommit (component : M3Component) (data : ProcessData) : Option Processing :=
  (component.readBatch data).bind fun batch =>
    if data.numSamples = 0 then none
    else data.audio.map fun _ =>
      Processing.retryPendingReleases { component := component.applyBoundary batch }
        data.outputEvents

/-- Queueing decisions keeps the accounts. -/
theorem queueDecisions_accounts {log : List Push} {ledger : GeneratedNoteLedger}
    (accounts : GeneratedNoteLedger.Accounts log ledger) (frames : Nat)
    (decisions : Nat → List VoiceTransition) (remaining : List Nat) :
    GeneratedNoteLedger.Accounts log (queueDecisions frames decisions remaining ledger) := by
  have decision (frame : Nat) (transitions : List VoiceTransition)
      {ledger : GeneratedNoteLedger} (accounts : GeneratedNoteLedger.Accounts log ledger) :
      GeneratedNoteLedger.Accounts log (queueDecision frames frame transitions ledger) := by
    induction transitions generalizing ledger with
    | nil => exact accounts
    | cons transition rest ih =>
        have queued := GeneratedNoteLedger.queueTransition_accounts accounts
          { transition with sampleOffset := frame } frames
        unfold queueDecision
        split
        · rename_i refused outcome
          rw [outcome] at queued
          exact GeneratedNoteLedger.enterBlocked_accounts queued
        · rename_i next outcome
          rw [outcome] at queued
          exact ih queued
  induction remaining generalizing ledger with
  | nil => exact accounts
  | cons frame rest ih =>
      dsimp only [queueDecisions]
      split_ifs
      · exact decision frame (decisions frame) accounts
      · exact ih (decision frame (decisions frame) accounts)

end M3Component

namespace SealedIn

open GeneratedNoteLedger

variable {log : List Push} {processing : Processing}

/-- Between its commit and its delivery a block queues nothing behind a boundary. -/
theorem decide_ (held : SealedIn log processing) (frames : Nat) (audio : AudioBlock) :
    SealedIn log (processing.map fun component =>
      Processing.discardBehindBoundary ((component.checkInput audio).runDetector frames audio)) := by
  have failed : Accounts (log ++ processing.pushed)
      (processing.component.checkInput audio).generatedNotes := by
    unfold M3Component.checkInput
    split_ifs
    · have raised : (processing.component.raiseStatus .invalidInputOrState).generatedNotes =
          processing.component.generatedNotes := by
        unfold M3Component.raiseStatus
        split_ifs <;> rfl
      refine enterBlocked_accounts ?_
      change Accounts _ (processing.component.raiseStatus .invalidInputOrState).generatedNotes
      rw [raised]
      exact held.accounts
    · exact held.accounts
  have silence (pending : processing.component.structuralBoundaryPending = true) :
      Silenced (processing.component.checkInput audio).generatedNotes := by
    unfold M3Component.checkInput
    split_ifs
    · exact Silenced.enterBlocked _
    · exact (held.waits pending).2
  have open_ : (processing.component.checkInput audio).structuralBoundaryPending =
      processing.component.structuralBoundaryPending :=
    M3Component.pending_of_core (M3Component.core_checkInput processing.component audio)
  have decided : Accounts (log ++ processing.pushed)
        ((processing.component.checkInput audio).runDetector frames audio).generatedNotes ∧
      (processing.component.structuralBoundaryPending = true →
        Silenced ((processing.component.checkInput audio).runDetector frames audio).generatedNotes) ∧
      ((processing.component.checkInput audio).runDetector frames audio).structuralBoundaryPending =
        processing.component.structuralBoundaryPending := by
    unfold M3Component.runDetector
    split_ifs with allowed
    · refine ⟨M3Component.queueDecisions_accounts failed _ _ _, fun pending => ?_, open_⟩
      have closed : M3Component.detectorAllowed _ audio = true := allowed.1
      unfold M3Component.detectorAllowed at closed
      rw [open_, pending] at closed
      exact absurd closed (by simp)
    · exact ⟨failed, silence, open_⟩
  obtain ⟨accounts, silenced, same⟩ := decided
  unfold Processing.discardBehindBoundary
  refine ⟨?_, fun pending => ?_⟩
  · change Accounts (log ++ processing.pushed) (M3Component.generatedNotes (if _ then _ else _))
    split_ifs
    · exact accounts.of_same_notes (fun _ => rfl) accounts.pending_active rfl
        fun _ member => absurd member List.not_mem_nil
    · exact accounts
  · change M3Component.structuralBoundaryPending (if _ then _ else _) = true at pending
    change Delivery.Waiting (M3Component.generatedNotes (if _ then _ else _))
    split_ifs at pending ⊢ with waits
    · exact ⟨rfl, silenced (same.symm.trans waits)⟩
    · exact absurd pending waits

/-- What the delivery of a block leaves, once the queue is cleared: the notes are sealed,
and behind a boundary nothing has been pushed. -/
theorem finish (held : SealedIn log processing) (data : ProcessData)
    (finiteInput supportedLayout : Bool) (selectedPeak : Option ℚ) :
    let delivered :=
      processing.deliverGeneratedNotes data finiteInput supportedLayout selectedPeak
    let final := delivered.map (·.mapLedger GeneratedNoteLedger.beginBlock)
    Sealed (log ++ final.pushed) final.component ∧ processing.pushed <+: final.pushed ∧
      (final.component.structuralBoundaryPending = true →
        final.pushed = processing.pushed) ∧
      final.component.structuralBoundaryPending =
        processing.component.structuralBoundaryPending := by
  intro delivered final
  obtain ⟨delivery, boundary⟩ :=
    deliver_view processing data finiteInput supportedLayout selectedPeak
  have accounts : Delivery.Accounts log delivered.delivery :=
    delivery ▸ Delivery.deliverQueued_accounts held.accounts _
  have pushed : delivered.pushed = _ := congrArg Delivery.pushed delivery
  have notes : delivered.component.generatedNotes = _ := congrArg Delivery.ledger delivery
  have same : final.pushed = delivered.pushed := rfl
  have quiet (request : DeliveryRequest)
      (pending : final.component.structuralBoundaryPending = true) :=
    @Delivery.deliverQueued_quiet processing.delivery request
      (.inl (held.waits (boundary.symm.trans pending)).1)
  refine ⟨⟨?_, rfl, fun pending => ?_⟩, ?_, fun pending => ?_, boundary⟩
  · exact GeneratedNoteLedger.Accounts.of_same_notes accounts (fun _ => rfl)
      accounts.pending_active rfl fun _ member => absurd member List.not_mem_nil
  · have silenced : Silenced delivered.component.generatedNotes := by
      rw [notes]
      exact (quiet _ pending).2 (held.waits (boundary.symm.trans pending)).2
    exact silenced
  · rw [same, pushed]
    exact Delivery.deliverQueued_grows processing.delivery _
  · rw [same, pushed]
    exact (quiet _ pending).1

end SealedIn

end M3Midi
