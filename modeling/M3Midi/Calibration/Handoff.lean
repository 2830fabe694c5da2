import M3Midi.Calibration.Handover
import M3Midi.Foundation.Transducer

/-! # The calibration between the threads

The main thread restores, saves and activates banks; the audio thread applies restores,
runs the sweep that calibrates a string, and follows the commands of the editor. Each
publishes its banks to the other on a transport of its own. Both are programs of atomic
accesses here, which may follow one another in any order.
-/

namespace M3Midi

open Foundation

/-- `CalibrationSweepPhase` -/
inductive CalibrationSweepPhase
  | idle
  | waitingOpen
  | ascending
  | descending
  | complete
  | insufficient
  deriving DecidableEq, Repr

/-- The string a calibrator starts with. -/
def firstString : Fin maxVoices := ⟨0, Nat.zero_lt_succ 7⟩

/-- The calibrator of one string, with the bank it completes. The sums of the sweep are left out
here: what the observations come to is given with the block. -/
structure StringSweepCalibrator where
  phase : CalibrationSweepPhase := .idle
  stringIndex : Fin maxVoices := firstString
  bank : StringCalibrationBank := {}

/-- What the observations of a block come to. The calibrator of `M3Midi.SweepCalibrator` says what
it is, and this says what may follow from it. -/
inductive SweepEvidence
  | nothing
  | ascends
  | descends
  | insufficient
  | completes (points : Fin calibrationFretCount → StringCalibrationPoint)

namespace StringSweepCalibrator

/-- A sweep is under way. -/
def active (calibrator : StringSweepCalibrator) : Bool :=
  calibrator.phase matches .waitingOpen | .ascending | .descending

/-- `begin`: only one sweep at a time. -/
def begin (calibrator : StringSweepCalibrator) (stringIndex : Fin maxVoices) :
    StringSweepCalibrator :=
  if calibrator.active then calibrator else { calibrator with phase := .waitingOpen, stringIndex }

/-- `cancel`: a sweep that is under way becomes idle, without a change to the bank. -/
def cancel (calibrator : StringSweepCalibrator) : StringSweepCalibrator :=
  if calibrator.active then { calibrator with phase := .idle } else calibrator

/-- `clear`: no bank, no sweep. -/
def clear (_ : StringSweepCalibrator) : StringSweepCalibrator := {}

/-- `set_bank`: a bank is taken over outside of a sweep. -/
def setBank (calibrator : StringSweepCalibrator) (bank : StringCalibrationBank) :
    StringSweepCalibrator :=
  if calibrator.active then calibrator else { calibrator with bank }

/-- The bank with the points of a completed sweep (`finalize`). -/
def finalize (calibrator : StringSweepCalibrator)
    (points : Fin calibrationFretCount → StringCalibrationPoint) : StringSweepCalibrator where
  phase := .complete
  stringIndex := calibrator.stringIndex
  bank :=
    { points := Function.update calibrator.bank.points calibrator.stringIndex points
      calibratedStringMask :=
        calibrator.bank.calibratedStringMask ||| (1 <<< calibrator.stringIndex.val) }

/-- `observe`: only a sweep that is under way goes on. What the observations come to moves the
phase, or completes the bank. -/
def observe (calibrator : StringSweepCalibrator) (evidence : SweepEvidence) :
    StringSweepCalibrator :=
  if calibrator.active then
    match evidence with
    | .nothing => calibrator
    | .ascends => { calibrator with phase := .ascending }
    | .descends => { calibrator with phase := .descending }
    | .insufficient => { calibrator with phase := .insufficient }
    | .completes points => calibrator.finalize points
  else calibrator

end StringSweepCalibrator

/-- What the user asks of the calibration. It is written by the main thread into one word, and
taken by the audio thread at the next block. -/
inductive CalibrationCommand
  | none
  | string (index : Fin maxVoices)
  | cancel
  | clear
  deriving DecidableEq

/-- The transport to the audio thread, and the one back. Each of them has one writer and one
reader, so that neither thread ever waits. -/
inductive HandoffTransport
  | restore
  | published
  deriving DecidableEq

/-- The registers of both transports. -/
abbrev HandoffRegister := HandoffTransport × TransportRegister

/-- The words of both transports at one moment. -/
abbrev HandoffMemory := HandoffRegister → BitVec 32

/-- What a thread does with the transports, one register at a time. -/
abbrev HandoffProgram (Result : Type) := RegisterProgram HandoffRegister (BitVec 32) Result

/-- What the main thread keeps of the calibration. The counter numbers the restores, and the
generation tells which of them the bank at hand belongs to. -/
structure MainSide where
  restoreCounter : BitVec 32 := 0
  bank : StringCalibrationBank
  restoreGeneration : BitVec 32 := 0

/-- What the audio thread keeps of the calibration. The generation is that of the restore it has
applied last, under which it publishes. -/
structure AudioSide where
  calibrator : StringSweepCalibrator := {}
  restoreGeneration : BitVec 32 := 0
  previousPhase : CalibrationSweepPhase := .idle

/-- What a thread reports: a bank it restores, saves or publishes. The reports of a run are its
log, on which the specification is built. -/
inductive HandoffReport
  | restored (bank : StringCalibrationBank) (generation : BitVec 32)
  | written (bank : StringCalibrationBank)
  | applied (bank : StringCalibrationBank) (generation : BitVec 32)
  | cleared (bank : StringCalibrationBank) (generation : BitVec 32)
  | swept (bank : StringCalibrationBank) (generation : BitVec 32)
  deriving DecidableEq

namespace HandoffProgram

open RegisterProgram

/-- `publish` on one of the transports. -/
def publish (transport : HandoffTransport) (bank : StringCalibrationBank)
    (generation : BitVec 32) : HandoffProgram Unit :=
  embed (Prod.mk transport) (TransportProgram.publish bank generation)

/-- `read_latest` on one of the transports. -/
def readLatest (transport : HandoffTransport) :
    HandoffProgram (Option CalibrationBankSnapshot) :=
  embed (Prod.mk transport) (TransportProgram.readAttempts transportReadAttempts)

end HandoffProgram

namespace MainSide

open HandoffProgram

/-- The side after `setState` of a bank. -/
def restored (side : MainSide) (calibration : StringCalibrationBank) : MainSide where
  restoreCounter := side.restoreCounter + 1
  bank := calibration
  restoreGeneration := side.restoreCounter + 1

/-- `setState`, for a bank that is merged with the factory's. -/
def setState (side : MainSide) (calibration : StringCalibrationBank) :
    HandoffProgram (MainSide × List HandoffReport) := do
  publish .restore calibration (side.restored calibration).restoreGeneration
  pure (side.restored calibration, [])

/-- The side after a read of the audio thread's transport. -/
def adopted (side : MainSide) : Option CalibrationBankSnapshot → MainSide
  | none => side
  | some snapshot =>
      if snapshot.generation = side.restoreGeneration then { side with bank := snapshot.bank }
      else side

/-- `adopt_published_calibration_on_main_thread`. -/
def adoptPublishedCalibration (side : MainSide) : HandoffProgram MainSide := do
  let snapshot ← readLatest .published
  pure (side.adopted snapshot)

/-- `getState`. -/
def getState (side : MainSide) : HandoffProgram (MainSide × List HandoffReport) := do
  let side ← side.adoptPublishedCalibration
  pure (side, [.written side.bank])

end MainSide

namespace AudioSide

open HandoffProgram

/-- `publish_string_calibration_status`: a sweep that has come to its end publishes. -/
def publishStringCalibrationStatus (side : AudioSide) :
    HandoffProgram (AudioSide × List HandoffReport) :=
  let settled := { side with previousPhase := side.calibrator.phase }
  if side.calibrator.phase = .complete ∧ side.previousPhase ≠ .complete then do
    publish .published side.calibrator.bank side.restoreGeneration
    pure (settled, [.swept side.calibrator.bank side.restoreGeneration])
  else pure (settled, [])

/-- The side that has applied a snapshot. -/
def restored (side : AudioSide) (snapshot : CalibrationBankSnapshot) : AudioSide where
  calibrator := side.calibrator.cancel.setBank snapshot.bank
  restoreGeneration := snapshot.generation
  previousPhase := (side.calibrator.cancel.setBank snapshot.bank).phase

/-- The audio thread takes over a restored bank, if its generation is another one than the last. It
is published back under that generation at once, so that a save finds it. -/
def applyCalibrationRestore (side : AudioSide) :
    HandoffProgram (AudioSide × List HandoffReport) := do
  match ← readLatest .restore with
  | none => pure (side, [])
  | some snapshot =>
      if snapshot.generation = side.restoreGeneration then pure (side, [])
      else
        publish .published snapshot.bank snapshot.generation
        let (side, reports) ← (side.restored snapshot).publishStringCalibrationStatus
        pure (side, .applied snapshot.bank snapshot.generation :: reports)

/-- The side that has no bank but the factory's. -/
def cleared (side : AudioSide) (factory : StringCalibrationBank) : AudioSide :=
  { side with calibrator := side.calibrator.clear.setBank factory }

/-- `apply_string_calibration_command` of a command. The detector may not be able to
play the string of a sweep. -/
def applyStringCalibrationCommand (side : AudioSide) (factory : StringCalibrationBank)
    (playable : Bool) : CalibrationCommand → HandoffProgram (AudioSide × List HandoffReport)
  | .none => side.publishStringCalibrationStatus
  | .string index =>
      let cancelled := side.calibrator.cancel
      { side with calibrator := if playable then cancelled.begin index else cancelled
      }.publishStringCalibrationStatus
  | .cancel => { side with calibrator := side.calibrator.cancel }.publishStringCalibrationStatus
  | .clear => do
      let cleared := side.cleared factory
      publish .published cleared.calibrator.bank cleared.restoreGeneration
      let (side, reports) ← cleared.publishStringCalibrationStatus
      pure (side, .cleared cleared.calibrator.bank cleared.restoreGeneration :: reports)

/-- The end of a block of samples. -/
def processBlock (side : AudioSide) (evidence : SweepEvidence) :
    HandoffProgram (AudioSide × List HandoffReport) :=
  { side with calibrator := side.calibrator.observe evidence }.publishStringCalibrationStatus

/-- `reset_detector_transients`. -/
def resetDetectorTransients (side : AudioSide) : HandoffProgram (AudioSide × List HandoffReport) :=
  { side with calibrator := side.calibrator.cancel }.publishStringCalibrationStatus

end AudioSide

/-- What the host calls on the main thread. -/
inductive MainCall
  | setState (overrides : StringCalibrationBank)
  | getState

/-- What a block does with the calibration on the audio thread. -/
inductive AudioCall
  | applyCalibrationRestore
  | applyStringCalibrationCommand (playable : Bool)
  | processBlock (evidence : SweepEvidence)

/-- The two threads with the rest of their calls, and what they share. A thread that is not in a
call has a program that is done. The threads take their steps in any order. -/
structure HandoffSystem where
  memory : HandoffMemory
  command : CalibrationCommand := .none
  active : Bool := false
  processing : Bool := false
  main : HandoffProgram (MainSide × List HandoffReport)
  audio : HandoffProgram (AudioSide × List HandoffReport)

/-- What happens to the system: a call begins, one of the threads takes a step, or a flag is set.
-/
inductive HandoffEvent
  | main (call : MainCall)
  | mainStep
  | audio (call : AudioCall)
  | audioStep
  | request (command : CalibrationCommand)
  | setActive (state : Bool) (configured : Bool)
  | setProcessing (state : Bool)

/-- The event neither calls the main thread nor makes an access. -/
def HandoffEvent.silent : HandoffEvent → Bool
  | .main _ | .mainStep | .audioStep => false
  | _ => true

namespace HandoffSystem

open RegisterProgram

/-- The reports of a program that has just come to its end. -/
def reports {Side : Type} : HandoffProgram (Side × List HandoffReport) → List HandoffReport
  | .done (_, reports) => reports
  | .act _ _ => []

/-- The main thread is where its program says, and has reported when the program is done. -/
def proceedMain (system : HandoffSystem) (memory : HandoffMemory)
    (main : HandoffProgram (MainSide × List HandoffReport)) :
    HandoffSystem × List HandoffReport :=
  ({ system with memory, main }, reports main)

/-- The same for the audio thread. -/
def proceedAudio (system : HandoffSystem) (memory : HandoffMemory)
    (audio : HandoffProgram (AudioSide × List HandoffReport)) :
    HandoffSystem × List HandoffReport :=
  ({ system with memory, audio }, reports audio)

/-- A call of the main thread starts. -/
def callMain (factory : StringCalibrationBank) (system : HandoffSystem) (side : MainSide) :
    MainCall → HandoffSystem × List HandoffReport
  | .setState overrides =>
      let calibration := mergeFactoryCalibration factory overrides
      let called := system.proceedMain system.memory (side.setState calibration)
      (called.1, .restored calibration (side.restored calibration).restoreGeneration :: called.2)
  | .getState => system.proceedMain system.memory side.getState

/-- A call of the audio thread starts. -/
def callAudio (factory : StringCalibrationBank) (system : HandoffSystem) (side : AudioSide) :
    AudioCall → HandoffSystem × List HandoffReport
  | .applyCalibrationRestore => system.proceedAudio system.memory side.applyCalibrationRestore
  | .applyStringCalibrationCommand playable =>
      { system with command := .none }.proceedAudio system.memory
        (side.applyStringCalibrationCommand factory playable system.command)
  | .processBlock evidence => system.proceedAudio system.memory (side.processBlock evidence)

/-- The audio thread rests while the main thread resets its detector. -/
def reset (system : HandoffSystem) (side : AudioSide) : HandoffSystem × List HandoffReport :=
  let outcome := side.resetDetectorTransients.run access system.memory
  system.proceedAudio outcome.2 (.done outcome.1)

/-- `setActive` with both threads at rest, so that the main thread reads alone. -/
def activate (system : HandoffSystem) (mainSide : MainSide) (audioSide : AudioSide)
    (configured : Bool) : HandoffSystem × List HandoffReport :=
  let found := CalibrationBankTransport.readLatest fun register =>
    system.memory (.published, register)
  let adopting := { system with main := .done (mainSide.adopted found, []) }
  if configured then
    let calibrator := audioSide.calibrator.setBank (mainSide.adopted found).bank
    { adopting with active := true }.reset { audioSide with calibrator }
  else (adopting, [])

/-- One event, with what is reported. Calls wait for the thread's last call to return;
the audio thread is called only while processing, and rests while that changes. -/
def step (factory : StringCalibrationBank) (system : HandoffSystem) :
    HandoffEvent → HandoffSystem × List HandoffReport
  | .main call =>
      match system.main with
      | .done (side, _) => system.callMain factory side call
      | .act _ _ => (system, [])
  | .mainStep =>
      match system.main with
      | .done _ => (system, [])
      | .act action next =>
          let outcome := access system.memory action
          system.proceedMain outcome.2 (next outcome.1)
  | .audio call =>
      match system.audio with
      | .done (side, _) =>
          if system.processing then system.callAudio factory side call else (system, [])
      | .act _ _ => (system, [])
  | .audioStep =>
      match system.audio with
      | .done _ => (system, [])
      | .act action next =>
          let outcome := access system.memory action
          system.proceedAudio outcome.2 (next outcome.1)
  | .request command => ({ system with command }, [])
  | .setActive state configured =>
      match system.main, system.audio with
      | .done (mainSide, _), .done (audioSide, _) =>
          if state ∧ system.active = false then system.activate mainSide audioSide configured
          else if ¬state ∧ system.processing = false then ({ system with active := false }, [])
          else (system, [])
      | _, _ => (system, [])
  | .setProcessing state =>
      match system.main, system.audio with
      | .done _, .done (side, _) =>
          if system.active ∧ system.processing ≠ state then
            { system with processing := state }.reset side
          else (system, [])
      | _, _ => (system, [])

/-- The system as `initialize` leaves it. -/
def start (factory : StringCalibrationBank) : HandoffSystem where
  memory
    | (.restore, register) => CalibrationBankTransport.reset register
    | (.published, register) => CalibrationBankTransport.reset.publish factory 0 register
  main := .done ({ bank := factory }, [])
  audio := .done ({}, [])

/-- The threads as a machine that emits what is reported. -/
def machine (factory : StringCalibrationBank) :
    Transducer HandoffEvent HandoffSystem HandoffReport where
  step := step factory

end HandoffSystem

end M3Midi
