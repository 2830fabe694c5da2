import M3Midi.Component.Process

/-! # What a call leaves alone

Delivering notes concerns the ledger, the status and the flags of a stop. The
structural boundary also concerns the exchange, the configurations the audio thread
knows and the detector. Everything outside of these belongs to the main thread and
to the calibration, and the notes and boundaries of a block leave it alone.
-/

namespace M3Midi

namespace M3Component

/-- The component without what note delivery changes. -/
def core (component : M3Component) : M3Component :=
  { component with
    status := .ready
    generatedNotes := {}
    releaseChannelPending := false
    processing := false
    processingStartedOnce := false }

/-- The component without what the structural boundary and a panic change, either. -/
def outer (component : M3Component) : M3Component :=
  { component.core with
    preparedExchange := { slots := fun _ => { prepared := {} } }
    preparedClaimPending := false
    structuralBoundaryPending := false
    pendingStructuralConfig := {}
    activeConfig := {}
    audioRequestedConfig := {}
    activeGeneration := 0
    panicRequested := false
    detector := {} }

/-- What agrees on the larger part agrees on the smaller one. -/
theorem outer_of_core {first second : M3Component} (same : first.core = second.core) :
    first.outer = second.outer :=
  show first.core.outer = second.core.outer from congrArg outer same

section Notes

variable (component : M3Component)

@[simp] theorem core_raiseStatus (status : Status) :
    (component.raiseStatus status).core = component.core := by
  unfold raiseStatus
  split_ifs <;> rfl

@[simp] theorem core_mapLedger (change : GeneratedNoteLedger → GeneratedNoteLedger) :
    (component.mapLedger change).core = component.core := rfl

@[simp] theorem core_updateDeliveryStatus (result : NoteDeliveryResult) :
    (component.updateDeliveryStatus result).core = component.core := by
  unfold updateDeliveryStatus
  split_ifs
  · exact core_raiseStatus component _
  · exact core_raiseStatus component _
  · rfl
  · rfl

@[simp] theorem core_checkInput (audio : AudioBlock) :
    (component.checkInput audio).core = component.core := by
  unfold checkInput
  split_ifs
  · exact core_raiseStatus component _
  · rfl

@[simp] theorem core_runDetector (frames : Nat) (audio : AudioBlock) :
    (component.runDetector frames audio).core = component.core := by
  unfold runDetector
  split_ifs <;> rfl

@[simp] theorem core_refuseCall : component.refuseCall.core = component.core :=
  core_raiseStatus component _

@[simp] theorem core_discardBehindBoundary :
    (Processing.discardBehindBoundary component).core = component.core := by
  unfold Processing.discardBehindBoundary
  split_ifs <;> rfl

@[simp] theorem core_setProcessing (state : Bool) :
    (component.setProcessing state).2.core = component.core := by
  unfold setProcessing
  split_ifs
  · rfl
  · rfl
  · exact core_raiseStatus (component.mapLedger GeneratedNoteLedger.requestRecovery) _
  · rfl
  · rfl
  · dsimp only
    exact core_raiseStatus _ _

end Notes

end M3Component

namespace Processing

variable (processing : Processing)

@[simp] theorem core_retryPendingReleases (events : EventList) :
    (processing.retryPendingReleases events).component.core = processing.component.core := by
  unfold retryPendingReleases
  dsimp only
  split_ifs
  · exact M3Component.core_raiseStatus _ _
  · rfl
  · rfl

@[simp] theorem core_deliverGeneratedNotes (data : ProcessData) (finiteInput : Bool)
    (supportedLayout : Bool) (selectedPeak : Option ℚ) :
    (processing.deliverGeneratedNotes data finiteInput supportedLayout selectedPeak).component.core
      = processing.component.core := by
  unfold deliverGeneratedNotes
  dsimp only
  split_ifs
  · rfl
  · exact M3Component.core_updateDeliveryStatus _ _

@[simp] theorem core_processUnsupported (data : ProcessData) :
    (processing.processUnsupported data).component.core = processing.component.core := by
  unfold processUnsupported
  dsimp only [map]
  rw [M3Component.core_mapLedger, core_deliverGeneratedNotes, core_retryPendingReleases,
    M3Component.core_mapLedger]
  exact M3Component.core_raiseStatus _ _

/-- Of a block of samples, only the commit concerns more than the notes. -/
theorem core_processAudio (data : ProcessData) (audio : AudioBlock) :
    (processing.processAudio data audio).component.core =
      (processing.retryPendingReleases
        data.outputEvents).component.commitPreparedConfigIfReleased.core := by
  unfold processAudio
  dsimp only [map]
  rw [M3Component.core_mapLedger, core_deliverGeneratedNotes,
    M3Component.core_discardBehindBoundary, M3Component.core_runDetector,
    M3Component.core_checkInput]

end Processing

namespace M3Component

section Boundary

variable (component : M3Component)

@[simp] theorem outer_raiseStatus (status : Status) :
    (component.raiseStatus status).outer = component.outer :=
  outer_of_core (core_raiseStatus component status)

@[simp] theorem outer_dropClaim : component.dropClaim.outer = component.outer := by
  unfold dropClaim
  split_ifs <;> rfl

@[simp] theorem outer_claimMatchingPreparedConfig :
    component.claimMatchingPreparedConfig.outer = component.outer := by
  unfold claimMatchingPreparedConfig
  dsimp only
  split_ifs
  · rfl
  · exact outer_raiseStatus _ _
  · rfl
  · exact outer_raiseStatus _ _

@[simp] theorem outer_beginStructuralBoundary (config : PersistentConfig) :
    (component.beginStructuralBoundary config).outer = component.outer := by
  unfold beginStructuralBoundary
  split_ifs
  · rfl
  · dsimp only
    rw [outer_claimMatchingPreparedConfig]
    exact outer_dropClaim component

@[simp] theorem outer_adoptPreparedConfig (claim : Claim) :
    (component.adoptPreparedConfig claim).outer = component.outer := by
  unfold adoptPreparedConfig
  dsimp only
  split_ifs
  · exact outer_raiseStatus _ _
  · rfl
  · rfl

@[simp] theorem outer_commitPreparedConfigIfReleased :
    component.commitPreparedConfigIfReleased.outer = component.outer := by
  unfold commitPreparedConfigIfReleased
  split_ifs
  · rfl
  · dsimp only
    split_ifs
    · exact outer_raiseStatus _ _
    · split
      · rfl
      · exact outer_adoptPreparedConfig _ _
  · dsimp only
    split_ifs
    · rw [outer_raiseStatus, outer_claimMatchingPreparedConfig]
    · split
      · exact outer_claimMatchingPreparedConfig component
      · rw [outer_adoptPreparedConfig, outer_claimMatchingPreparedConfig]

@[simp] theorem outer_applyBatch (batch : ParameterBatch) :
    (component.applyBatch batch).outer = component.outer := by
  unfold applyBatch
  split_ifs
  · rfl
  · exact outer_beginStructuralBoundary component _
  · rfl

@[simp] theorem outer_applyPanic (panic : Bool) :
    (component.applyPanic panic).outer = component.outer := by
  unfold applyPanic
  split_ifs <;> rfl

end Boundary

end M3Component

/-- A block's samples leave the main thread's fields and the calibration alone. -/
@[simp] theorem Processing.outer_processSamples (processing : Processing) (data : ProcessData) :
    (processing.processSamples data).component.outer = processing.component.outer := by
  unfold processSamples
  cases data.audio with
  | none => exact M3Component.outer_of_core (core_processUnsupported processing data)
  | some audio =>
      refine (M3Component.outer_of_core (core_processAudio processing data audio)).trans ?_
      rw [M3Component.outer_commitPreparedConfigIfReleased]
      exact M3Component.outer_of_core (core_retryPendingReleases processing data.outputEvents)

namespace M3Component

/-- The component without anything a call of the audio thread changes. -/
def mainSide (component : M3Component) : M3Component :=
  { component.outer with
    calibrationPublished := .reset
    audioCalibrationRestoreGeneration := 0 }

/-- The main thread's side is part of the outer component. -/
theorem mainSide_of_outer {first second : M3Component} (same : first.outer = second.outer) :
    first.mainSide = second.mainSide :=
  show first.outer.mainSide = second.outer.mainSide from congrArg mainSide same

/-- Components with one main side agree on what a publication reads. -/
theorem main_of_mainSide {first second : M3Component} (same : first.mainSide = second.mainSide) :
    first.mainConfig = second.mainConfig ∧ first.mainGeneration = second.mainGeneration ∧
      first.processSetup = second.processSetup ∧ first.active = second.active ∧
      first.setupComplete = second.setupComplete := by
  have config := congrArg mainConfig same
  have generation := congrArg mainGeneration same
  have setup := congrArg processSetup same
  have active := congrArg M3Component.active same
  have complete := congrArg setupComplete same
  exact ⟨config, generation, setup, active, complete⟩

variable (component : M3Component)

/-- A bank that is taken over leaves the main thread's side alone. -/
theorem mainSide_applyCalibrationRestore :
    component.applyCalibrationRestore.mainSide = component.mainSide := by
  unfold applyCalibrationRestore
  split
  · rfl
  · split_ifs <;> rfl

/-- All that a block does before its samples leaves the main thread's side alone. -/
theorem mainSide_applyBoundary (batch : ParameterBatch) :
    (component.applyBoundary batch).mainSide = component.mainSide := by
  unfold applyBoundary
  rw [mainSide_applyCalibrationRestore]
  refine mainSide_of_outer ?_
  rw [outer_applyPanic, outer_applyBatch]

/-- A call of the audio thread leaves the main thread's side alone. -/
theorem mainSide_process (data : ProcessData) :
    (component.process data).2.component.mainSide = component.mainSide := by
  unfold process
  cases component.readBatch data with
  | none => exact mainSide_of_outer (outer_of_core (core_refuseCall component))
  | some batch =>
      dsimp only
      split_ifs
      · rw [mainSide_of_outer (outer_raiseStatus _ _), mainSide_applyBoundary]
      · exact mainSide_applyBoundary component batch
      · rw [mainSide_of_outer (Processing.outer_processSamples _ data), mainSide_applyBoundary]

end M3Component

end M3Midi
