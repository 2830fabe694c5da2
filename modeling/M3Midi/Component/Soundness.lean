import M3Midi.Component.RestoredBank
import M3Midi.Component.AcceptedRuns
import M3Midi.Ledger.HeldNotes

/-! # Notes and status of a component

The notes a component holds are MIDI notes, since its sink refuses all others; and
an active component reports a reconfiguration only while a boundary is open. Every
call keeps this.
-/

namespace M3Midi

open Foundation

/-- A note and a channel of MIDI. -/
def MidiNote (note channel : Nat) : Prop := note ≤ 127 ∧ 1 ≤ channel ∧ channel ≤ 16

/-- The sink of a block takes only events that are MIDI notes. -/
theorem vst3EventSink_takes (events : EventList) : TakesOnly MidiNote (vst3EventSink events) := by
  intro answer sink pushed transition channel accepted
  obtain rfl := Option.some.inj sink
  cases events with
  | none => exact absurd accepted (by simp)
  | some host =>
      simp only [validVst3Note, Bool.and_eq_true, decide_eq_true_eq] at accepted
      obtain ⟨⟨⟨⟨⟨low, high⟩, note⟩, -⟩, -⟩, -⟩ := accepted
      exact ⟨note, low, high⟩

/-- A host that takes every event takes the release of every MIDI note. -/
theorem vst3EventSink_releases {host : List Push → VoiceTransition → Nat → Bool}
    (takes : ∀ pushed transition channel, host pushed transition channel = true) :
    Delivery.Releases MidiNote (vst3EventSink (some host)) := by
  refine ⟨_, rfl, fun pushed voice note midi => ⟨midi.2, ?_⟩⟩
  simp [validVst3Note, Delivery.pendingRelease, takes, midi.1, midi.2.1, midi.2.2]

/-- The component's notes are MIDI notes, and its status fits its boundary. -/
structure Sound (component : M3Component) : Prop where
  waits : component.active = true → component.status = .reconfiguring →
    component.structuralBoundaryPending = true
  notes : HoldsOnly MidiNote component.generatedNotes

namespace Sound

variable {component : M3Component}

/-- A status may be raised, but the one of a reconfiguration only while a boundary is pending. -/
theorem raise (sound : Sound component) {status : Status}
    (allowed : status ≠ .reconfiguring ∨ component.structuralBoundaryPending = true) :
    Sound (component.raiseStatus status) := by
  unfold M3Component.raiseStatus
  split_ifs
  · exact ⟨fun _ reconfiguring => allowed.resolve_left (not_not.mpr reconfiguring), sound.notes⟩
  · exact sound

/-- A change of the ledger keeps the component sound when it leaves only MIDI notes held. -/
theorem mapLedger (sound : Sound component) {change : GeneratedNoteLedger → GeneratedNoteLedger}
    (holds : HoldsOnly MidiNote (change component.generatedNotes)) :
    Sound (component.mapLedger change) :=
  ⟨sound.waits, holds⟩

/-- What a delivery reports changes nothing but the status. -/
theorem updateDeliveryStatus (sound : Sound component) (result : NoteDeliveryResult) :
    Sound (component.updateDeliveryStatus result) := by
  unfold M3Component.updateDeliveryStatus
  split_ifs
  · exact sound.raise (.inl (by simp))
  · exact sound.raise (.inl (by simp))
  · exact ⟨fun _ contrary => absurd contrary (by simp), sound.notes⟩
  · exact sound

/-- Input that is not finite blocks the output, and its status fits. -/
theorem checkInput (sound : Sound component) (audio : AudioBlock) :
    Sound (component.checkInput audio) := by
  unfold M3Component.checkInput
  split_ifs
  · have raised : Sound (component.raiseStatus .invalidInputOrState) :=
      sound.raise (.inl (by simp))
    exact ⟨raised.waits, raised.notes.enterBlocked⟩
  · exact sound

/-- A refused call blocks the output and reports why. -/
theorem refuseCall (sound : Sound component) : Sound component.refuseCall := by
  have raised : Sound (component.raiseStatus .invalidInputOrState) :=
    sound.raise (.inl (by simp))
  exact raised.mapLedger raised.notes.enterBlocked

/-- Queueing decisions fills no slot. -/
theorem queueDecision_holds {ledger : GeneratedNoteLedger} (holds : HoldsOnly MidiNote ledger)
    (frames frame : Nat) (transitions : List VoiceTransition) :
    HoldsOnly MidiNote (M3Component.queueDecision frames frame transitions ledger) := by
  induction transitions generalizing ledger with
  | nil => exact holds
  | cons transition rest ih =>
      unfold M3Component.queueDecision
      have queued := holds.queueTransition { transition with sampleOffset := frame } frames
      split
      · rename_i refused outcome
        rw [outcome] at queued
        exact queued.enterBlocked
      · rename_i next outcome
        rw [outcome] at queued
        exact ih queued

/-- The decisions of a block queue only MIDI notes. -/
theorem queueDecisions_holds {ledger : GeneratedNoteLedger} (holds : HoldsOnly MidiNote ledger)
    (frames : Nat) (decisions : Nat → List VoiceTransition) (remaining : List Nat) :
    HoldsOnly MidiNote (M3Component.queueDecisions frames decisions remaining ledger) := by
  induction remaining generalizing ledger with
  | nil => exact holds
  | cons frame rest ih =>
      have queued := queueDecision_holds holds frames frame (decisions frame)
      dsimp only [M3Component.queueDecisions]
      split_ifs
      · exact queued
      · exact ih queued

/-- The detector's samples and the transitions they queue keep the component sound. -/
theorem runDetector (sound : Sound component) (frames : Nat) (audio : AudioBlock) :
    Sound (component.runDetector frames audio) := by
  unfold M3Component.runDetector
  split_ifs
  · exact sound.mapLedger (queueDecisions_holds sound.notes _ _ _)
  · exact sound

/-- The start of a block drops the queue, and holds no other notes. -/
theorem beginBlock (sound : Sound component) :
    Sound (component.mapLedger GeneratedNoteLedger.beginBlock) :=
  sound.mapLedger (sound.notes.of_same_voices rfl)

/-- What was queued behind a pending boundary is dropped. -/
theorem discardBehindBoundary (sound : Sound component) :
    Sound (Processing.discardBehindBoundary component) := by
  unfold Processing.discardBehindBoundary
  split_ifs
  · exact sound.beginBlock
  · exact sound

/-- Starting and stopping keep the component sound. -/
theorem setProcessing (sound : Sound component) (state : Bool) :
    Sound (component.setProcessing state).2 := by
  unfold M3Component.setProcessing
  split_ifs
  · exact sound
  · exact sound
  · have recovering : Sound (component.mapLedger GeneratedNoteLedger.requestRecovery) :=
      sound.mapLedger (sound.notes.of_same_voices rfl)
    have raised : Sound ((component.mapLedger GeneratedNoteLedger.requestRecovery).raiseStatus
      .panicHold) := recovering.raise (.inl (by simp))
    exact ⟨raised.waits, raised.notes⟩
  · exact ⟨sound.waits, sound.notes⟩
  · exact sound
  · have released : Sound (component.mapLedger GeneratedNoteLedger.requestReleaseAll) :=
      sound.mapLedger sound.notes.requestReleaseAll
    have raised (pending : Bool) : Sound (M3Component.raiseStatus (M3Component.mapLedger
        { component.mapLedger GeneratedNoteLedger.requestReleaseAll with
          releaseChannelPending := pending } GeneratedNoteLedger.requestRecovery) .panicHold) := by
      refine raise ?_ (.inl (by simp))
      exact ⟨released.waits, released.notes.of_same_voices rfl⟩
    exact ⟨(raised _).waits, (raised _).notes⟩

/-- A claim that is given up leaves the boundary as it is. -/
theorem dropClaim (sound : Sound component) : Sound component.dropClaim := by
  unfold M3Component.dropClaim
  split_ifs
  · exact ⟨sound.waits, sound.notes⟩
  · exact sound

/-- A claim that is taken leaves the boundary as it is. -/
theorem claimMatchingPreparedConfig (sound : Sound component) :
    Sound component.claimMatchingPreparedConfig := by
  unfold M3Component.claimMatchingPreparedConfig
  split_ifs with skipped
  · exact sound
  · simp only [not_or, Bool.not_eq_false] at skipped
    have scanned (exchange : PreparedConfigExchange PreparedConfig) :
        Sound { component with preparedExchange := exchange } := ⟨sound.waits, sound.notes⟩
    dsimp only
    split_ifs
    · exact (scanned _).raise (.inr skipped.1)
    · exact ⟨sound.waits, sound.notes⟩
    · exact (scanned _).raise (.inr skipped.1)

/-- A boundary that opens releases the held notes, and they stay MIDI notes. -/
theorem beginStructuralBoundary (sound : Sound component) (config : PersistentConfig) :
    Sound (component.beginStructuralBoundary config) := by
  unfold M3Component.beginStructuralBoundary
  split_ifs
  · exact sound
  · exact claimMatchingPreparedConfig ⟨fun _ _ => rfl, sound.dropClaim.notes.requestReleaseAll⟩

/-- A prepared configuration that is adopted closes the boundary, together with its status. -/
theorem adoptPreparedConfig (sound : Sound component) (claim : Claim) :
    Sound (component.adoptPreparedConfig claim) := by
  unfold M3Component.adoptPreparedConfig
  dsimp only
  split_ifs with refused waiting
  · refine raise ?_ (.inl (by simp))
    exact ⟨sound.waits, sound.notes⟩
  · exact ⟨fun _ contrary => absurd contrary (by simp), sound.notes⟩
  · exact ⟨fun _ reconfiguring => absurd reconfiguring waiting, sound.notes⟩

/-- The commit keeps the component sound, whether it adopts a configuration or not. -/
theorem commitPreparedConfigIfReleased (sound : Sound component) :
    Sound component.commitPreparedConfigIfReleased := by
  unfold M3Component.commitPreparedConfigIfReleased
  split_ifs with settled
  · exact sound
  all_goals
    rw [Bool.not_eq_false] at settled
    dsimp only
  · split_ifs
    · exact sound.raise (.inr settled)
    · split
      · exact sound
      · exact sound.adoptPreparedConfig _
  · have claimed := sound.claimMatchingPreparedConfig
    split_ifs
    · exact claimed.raise (.inr
        ((M3Component.claimMatchingPreparedConfig_frame component).1.trans settled))
    · split
      · exact claimed
      · exact claimed.adoptPreparedConfig _

/-- The parameters of a block keep the component sound, whether they open a boundary or not. -/
theorem applyBatch (sound : Sound component) (batch : ParameterBatch) :
    Sound (component.applyBatch batch) := by
  unfold M3Component.applyBatch
  split_ifs
  · exact sound
  · exact sound.beginStructuralBoundary _
  · exact ⟨sound.waits, sound.notes⟩

/-- A panic releases the held notes, and they stay MIDI notes. -/
theorem applyPanic (sound : Sound component) (panic : Bool) :
    Sound (component.applyPanic panic) := by
  unfold M3Component.applyPanic
  split_ifs
  · exact ⟨sound.waits, sound.notes.requestReleaseAll.of_same_voices rfl⟩
  · exact ⟨sound.waits, sound.notes.requestReleaseAll.of_same_voices rfl⟩
  · exact sound

/-- A bank that is taken over changes neither notes nor status. -/
theorem applyCalibrationRestore (sound : Sound component) :
    Sound component.applyCalibrationRestore := by
  unfold M3Component.applyCalibrationRestore
  split
  · exact sound
  · split_ifs
    · exact sound
    · exact ⟨sound.waits, sound.notes⟩

/-- All that a block does before its samples keeps the component sound. -/
theorem applyBoundary (sound : Sound component) (batch : ParameterBatch) :
    Sound (component.applyBoundary batch) :=
  ((sound.applyBatch batch).applyPanic batch.panic).applyCalibrationRestore

section Delivery

variable {processing : Processing}

/-- Releases that are tried again leave only MIDI notes held. -/
theorem retryPendingReleases (sound : Sound processing.component) (events : EventList) :
    Sound (processing.retryPendingReleases events).component := by
  have released : HoldsOnly MidiNote
      (processing.delivery.retryPendingReleases (vst3EventSink events)).2.ledger :=
    Delivery.retryPendingReleases_holds sound.notes
  unfold Processing.retryPendingReleases
  dsimp only
  split_ifs
  · refine raise ?_ (.inl (by simp))
    exact ⟨sound.waits, released⟩
  · exact ⟨sound.waits, released⟩
  · exact ⟨sound.waits, released⟩

/-- The notes of a block are delivered from a sound component, and leave a sound one. -/
theorem deliverGeneratedNotes (sound : Sound processing.component) (data : ProcessData)
    (finiteInput supportedLayout : Bool) (selectedPeak : Option ℚ) :
    Sound (processing.deliverGeneratedNotes data finiteInput supportedLayout
      selectedPeak).component := by
  unfold Processing.deliverGeneratedNotes
  dsimp only
  have delivered (request : DeliveryRequest) (sink : request.sink = vst3EventSink data.outputEvents) :
      HoldsOnly MidiNote (processing.delivery.deliverQueued request).2.ledger :=
    Delivery.deliverQueued_holds sound.notes (sink ▸ vst3EventSink_takes data.outputEvents)
  split_ifs
  · exact ⟨sound.waits, delivered _ rfl⟩
  · refine updateDeliveryStatus ?_ _
    exact ⟨sound.waits, delivered _ rfl⟩

/-- A block whose layout is not supported keeps the component sound. -/
theorem processUnsupported (sound : Sound processing.component) (data : ProcessData) :
    Sound (processing.processUnsupported data).component := by
  have raised : Sound (processing.component.raiseStatus .unsupportedLayout) :=
    sound.raise (.inl (by simp))
  have failed : Sound (M3Component.mapLedger
      { processing.component.raiseStatus .unsupportedLayout with releaseChannelPending := true }
      GeneratedNoteLedger.reportOutputFailure) := ⟨raised.waits, raised.notes.enterBlocked⟩
  exact ((failed.retryPendingReleases data.outputEvents).deliverGeneratedNotes data true false
    (some 0)).beginBlock

/-- A block of samples keeps the component sound. -/
theorem processAudio (sound : Sound processing.component) (data : ProcessData)
    (audio : AudioBlock) : Sound (processing.processAudio data audio).component := by
  have committed := (sound.retryPendingReleases data.outputEvents).commitPreparedConfigIfReleased
  have decided := ((committed.checkInput audio).runDetector data.numSamples.toNat
    audio).discardBehindBoundary
  exact (deliverGeneratedNotes decided data _ true audio.selectedPeak).beginBlock

end Delivery

/-- Every call of the audio thread. -/
theorem process (sound : Sound component) (data : ProcessData) :
    Sound (component.process data).2.component := by
  unfold M3Component.process
  cases component.readBatch data with
  | none => exact sound.refuseCall
  | some batch =>
      have bounded := sound.applyBoundary batch
      dsimp only
      split_ifs with parametersOnly pending
      · exact bounded.raise (.inr pending)
      · exact bounded
      · unfold Processing.processSamples
        cases data.audio with
        | none => exact bounded.processUnsupported data
        | some audio => exact bounded.processAudio data audio

/-- A configuration that the main thread publishes does not touch the ledger. -/
theorem publishMainConfig (sound : Sound component) (config : PersistentConfig) :
    Sound (component.publishMainConfig config).2 := by
  rcases M3Component.publishMainConfig_cases component config with
    ⟨-, settled⟩ | ⟨exchange, failed⟩ | ⟨exchange, prepared, generation, valid, -, published⟩
  · rw [settled]
    exact ⟨sound.waits, sound.notes⟩
  · rw [failed]
    exact ⟨sound.waits, sound.notes⟩
  · rw [published]
    exact ⟨sound.waits, sound.notes⟩

/-- An edited parameter keeps the component sound. -/
theorem setParamNormalized (sound : Sound component) (id : ParameterId) (normalized : Option ℚ) :
    Sound (component.setParamNormalized id normalized).2 := by
  rcases M3Component.setParamNormalized_cases component id normalized with
    refused | ⟨-, panic⟩ | ⟨spec, plain, -, -, -, edited⟩
  · rwa [refused]
  · rw [panic]
    exact ⟨sound.waits, sound.notes⟩
  · have published := sound.publishMainConfig
      (applyParameter component.mainConfig id (some plain)).2
    rw [edited]
    cases outcome : component.publishMainConfig
        (applyParameter component.mainConfig id (some plain)).2 with
    | mk accepted next =>
        rw [outcome] at published
        cases accepted <;> exact ⟨published.waits, published.notes⟩

/-- A loaded project keeps the component sound. -/
theorem setState (sound : Sound component) (factory : StringCalibrationBank) (bytes : List Byte) :
    Sound (component.setState factory bytes).2 := by
  rcases M3Component.setState_cases component factory bytes with
    refused | ⟨exchange, failed⟩ | ⟨config, bank, next, -, published, restored⟩
  · rwa [refused]
  · rw [failed]
    exact ⟨sound.waits, sound.notes⟩
  · have kept := sound.publishMainConfig config
    rw [published] at kept
    rw [restored]
    exact ⟨kept.waits, kept.notes⟩

/-- A set-up keeps the component sound. -/
theorem setupProcessing (sound : Sound component) (setup : ProcessSetup) :
    Sound (component.setupProcessing setup).2 := by
  unfold M3Component.setupProcessing
  split_ifs
  · exact sound
  · dsimp only
    split
    · exact sound
    · exact ⟨sound.waits, sound.notes⟩

/-- A bank that the main thread adopts does not touch the ledger. -/
theorem adoptPublishedCalibration (sound : Sound component) :
    Sound component.adoptPublishedCalibration := by
  rw [M3Component.adoptPublishedCalibration_eq]
  exact ⟨sound.waits, sound.notes⟩

/-- A saved project keeps the component sound. -/
theorem getState (sound : Sound component) : Sound component.getState.2 := by
  unfold M3Component.getState
  split_ifs
  · exact sound
  · exact sound.adoptPublishedCalibration

/-- A component that is switched off is sound, with nothing held. -/
theorem deactivate (sound : Sound component) : Sound component.deactivate.2 := by
  unfold M3Component.deactivate
  split_ifs
  · exact sound
  · exact sound
  · exact sound
  all_goals exact ⟨fun contrary => absurd contrary (by simp), sound.notes.requestReleaseAll⟩

/-- An activation keeps what is still to be released, and starts without a boundary. -/
theorem activate (sound : Sound component) (granted : Bool) :
    Sound (component.activate granted).2 := by
  unfold M3Component.activate
  split_ifs with refused
  · exact sound
  · simp only [not_or, Bool.not_eq_true] at refused
    have inactive : component.active = false := refused.2.2.1
    cases component.preparationFor with
    | none => exact sound
    | some prepared =>
        dsimp only
        have stored := sound.notes.activatePreservingPending
          component.processSetup.maxSamplesPerBlock.toNat granted
        cases outcome : component.generatedNotes.activatePreservingPending
            component.processSetup.maxSamplesPerBlock.toNat granted with
        | mk allocated ledger =>
            rw [outcome] at stored
            cases allocated with
            | false => exact ⟨sound.waits, stored⟩
            | true =>
                have adopted : Sound ({ component with generatedNotes := ledger }.activateWith
                    prepared).adoptPublishedCalibration := by
                  refine adoptPublishedCalibration ?_
                  exact ⟨fun active => absurd (inactive.symm.trans active) (by simp), stored⟩
                have idle : ({ component with generatedNotes := ledger }.activateWith
                    prepared).adoptPublishedCalibration.active = false := by
                  rw [M3Component.adoptPublishedCalibration_eq]
                  exact inactive
                dsimp only
                generalize ({ component with generatedNotes := ledger }.activateWith
                  prepared).adoptPublishedCalibration = next at adopted idle ⊢
                cases configured : next.configureDetector _ with
                | mk answer detected =>
                    have notes : detected.generatedNotes = next.generatedNotes :=
                      (congrArg (fun outcome => outcome.2.generatedNotes) configured).symm
                    have inert : detected.active = false :=
                      (congrArg (fun outcome => outcome.2.active) configured).symm.trans idle
                    have held : HoldsOnly MidiNote detected.generatedNotes := notes ▸ adopted.notes
                    cases answer with
                    | false =>
                        exact ⟨fun active => absurd (inert.symm.trans active) (by simp),
                          held.requestReleaseAll⟩
                    | true =>
                        refine ⟨fun _ reconfiguring => ?_, held⟩
                        change (if detected.generatedNotes.panicHold then Status.panicHold
                          else .ready) = .reconfiguring at reconfiguring
                        split_ifs at reconfiguring

/-- Every call of the host. -/
theorem hostStep (sound : Sound component) (factory : StringCalibrationBank) (call : HostCall) :
    Sound (component.hostStep factory call) := by
  cases call with
  | setupProcessing setup => exact sound.setupProcessing setup
  | activate granted => exact sound.activate granted
  | deactivate => exact sound.deactivate
  | setProcessing state => exact sound.setProcessing state
  | process data => exact sound.process data
  | setParamNormalized id normalized => exact sound.setParamNormalized id normalized
  | setState bytes => exact sound.setState factory bytes
  | getState => exact sound.getState

/-- Along every run of host calls from the initialization. -/
theorem run (factory : StringCalibrationBank) (calls : List HostCall) :
    Sound ((M3Component.hostMachine factory).run (M3Component.start factory) calls).1 := by
  refine (M3Component.hostMachine factory).run_preserves
    (fun component call sound => sound.hostStep factory call) ?_ calls
  have inactive : (M3Component.start factory).active = false := rfl
  have empty : (M3Component.start factory).generatedNotes = {} := rfl
  refine ⟨fun active => absurd (inactive.symm.trans active) (by simp), ?_⟩
  rw [empty]
  intro slot occupied
  exact absurd (show ({} : ActiveVoice).occupied = true from occupied) (by decide)

end Sound

end M3Midi
