import M3Midi.Component.Activation
import M3Midi.Parameter.Acceptance
import M3Midi.Calibration.Handover

/-! # How a calibration travels through the component

A restored bank is published to the audio thread, which hands it to the detector
and publishes it back; the main thread adopts what comes back before it saves or
activates. Everything else a call does leaves the banks and the transports as they
are.
-/

namespace M3Midi

open Foundation

/-- The fields of a component that decide about its calibration and its saved
configuration. -/
structure CalibrationState where
  initialized : Bool
  request : ConfigRequestSnapshot
  mainConfig : PersistentConfig
  restore : CalibrationBankTransport
  published : CalibrationBankTransport
  mainBank : StringCalibrationBank
  counter : BitVec 32
  mainGeneration : BitVec 32
  audioGeneration : BitVec 32

namespace M3Component

/-- The part of the component that the calibration is about. -/
def calibration (component : M3Component) : CalibrationState where
  initialized := component.initialized
  request := component.configRequest
  mainConfig := component.mainConfig
  restore := component.calibrationRestore
  published := component.calibrationPublished
  mainBank := component.mainCalibrationBank
  counter := component.calibrationRestoreCounter
  mainGeneration := component.mainCalibrationRestoreGeneration
  audioGeneration := component.audioCalibrationRestoreGeneration

/-- What agrees on the outer component agrees on the calibration. -/
theorem calibration_of_outer {first second : M3Component} (same : first.outer = second.outer) :
    first.calibration = second.calibration :=
  show first.outer.calibration = second.outer.calibration from congrArg calibration same

/-- Starting and stopping leave the calibration alone. -/
theorem calibration_setProcessing (component : M3Component) (state : Bool) :
    (component.setProcessing state).2.calibration = component.calibration :=
  calibration_of_outer (outer_of_core (core_setProcessing component state))

theorem calibration_deactivate (component : M3Component) :
    component.deactivate.2.calibration = component.calibration := by
  unfold deactivate
  split_ifs <;> rfl

end M3Component

/-- The audio thread's part of a handover (`apply_calibration_restore`). -/
def CalibrationState.handOver (state : CalibrationState) : CalibrationState :=
  match state.restore.readLatest with
  | none => state
  | some snapshot =>
      if snapshot.generation = state.audioGeneration then state
      else
        { state with
          published := state.published.publish snapshot.bank snapshot.generation
          audioGeneration := snapshot.generation }

/-- The main thread's part (`adopt_published_calibration_on_main_thread`). -/
def CalibrationState.adopt (state : CalibrationState) : CalibrationState :=
  match state.published.readLatest with
  | none => state
  | some snapshot =>
      if snapshot.generation = state.mainGeneration then { state with mainBank := snapshot.bank }
      else state

namespace CalibrationState

variable {state : CalibrationState} {snapshot : CalibrationBankSnapshot}

/-- Without a restored bank to read, nothing is handed over. -/
theorem handOver_unread (read : state.restore.readLatest = none) : state.handOver = state := by
  unfold handOver
  rw [read]

/-- A bank that has been handed over is not handed over again. -/
theorem handOver_handed (read : state.restore.readLatest = some snapshot)
    (handed : snapshot.generation = state.audioGeneration) : state.handOver = state := by
  unfold handOver
  rw [read]
  exact if_pos handed

/-- A restored bank of another generation is handed over and published. -/
theorem handOver_fresh (read : state.restore.readLatest = some snapshot)
    (fresh : snapshot.generation ≠ state.audioGeneration) :
    state.handOver =
      { state with
        published := state.published.publish snapshot.bank snapshot.generation
        audioGeneration := snapshot.generation } := by
  unfold handOver
  rw [read]
  exact if_neg fresh

/-- Without a published bank to read, nothing is adopted. -/
theorem adopt_unread (read : state.published.readLatest = none) : state.adopt = state := by
  unfold adopt
  rw [read]

/-- A published bank of the main thread's own generation is adopted. -/
theorem adopt_current (read : state.published.readLatest = some snapshot)
    (current : snapshot.generation = state.mainGeneration) :
    state.adopt = { state with mainBank := snapshot.bank } := by
  unfold adopt
  rw [read]
  exact if_pos current

/-- One of another generation is not. -/
theorem adopt_stale (read : state.published.readLatest = some snapshot)
    (stale : snapshot.generation ≠ state.mainGeneration) : state.adopt = state := by
  unfold adopt
  rw [read]
  exact if_neg stale

end CalibrationState

namespace M3Component

variable (component : M3Component)

/-- The audio thread's part of a block is a hand-over. -/
theorem calibration_applyCalibrationRestore :
    component.applyCalibrationRestore.calibration = component.calibration.handOver := by
  unfold applyCalibrationRestore
  cases read : component.calibrationRestore.readLatest with
  | none => exact (CalibrationState.handOver_unread read).symm
  | some snapshot =>
      by_cases handed : snapshot.generation = component.audioCalibrationRestoreGeneration
      · dsimp only
        rw [if_pos handed]
        exact (@CalibrationState.handOver_handed component.calibration snapshot read handed).symm
      · dsimp only
        rw [if_neg handed, @CalibrationState.handOver_fresh component.calibration snapshot read handed]
        simp only [calibration]

/-- The main thread's part of a save is an adoption. -/
theorem calibration_adoptPublishedCalibration :
    component.adoptPublishedCalibration.calibration = component.calibration.adopt := by
  unfold adoptPublishedCalibration
  cases read : component.calibrationPublished.readLatest with
  | none => exact (CalibrationState.adopt_unread read).symm
  | some snapshot =>
      by_cases current : snapshot.generation = component.mainCalibrationRestoreGeneration
      · dsimp only
        rw [if_pos current]
        exact (@CalibrationState.adopt_current component.calibration snapshot read current).symm
      · dsimp only
        rw [if_neg current]
        exact (@CalibrationState.adopt_stale component.calibration snapshot read current).symm

/-- An accepted call of the audio thread hands a restored bank over, and a refused
one does not. -/
theorem calibration_process (data : ProcessData) :
    (component.process data).2.component.calibration =
      if (component.readBatch data).isSome then component.calibration.handOver
      else component.calibration := by
  unfold process
  cases component.readBatch data with
  | none => exact calibration_of_outer (outer_of_core (core_refuseCall component))
  | some batch =>
      have bounded : (component.applyBoundary batch).calibration = component.calibration.handOver := by
        unfold applyBoundary
        rw [calibration_applyCalibrationRestore, calibration_of_outer (outer_applyPanic _ _),
          calibration_of_outer (outer_applyBatch component batch)]
      rw [Option.isSome_some, if_pos rfl, ← bounded]
      dsimp only
      split_ifs
      · exact calibration_of_outer (outer_raiseStatus _ _)
      · rfl
      · exact calibration_of_outer (Processing.outer_processSamples _ data)

end M3Component

end M3Midi
