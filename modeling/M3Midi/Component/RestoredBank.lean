import M3Midi.Component.Calibration
import M3Midi.Component.MainThread
import M3Midi.Component.RequestedConfig
import M3Midi.Calibration.SavedState

/-! # What is saved is what was restored

The bank a project restores is saved and run as it is until the audio thread has
accepted a call. From then on its transported copy takes its place, so that the
restored bank is kept exactly when it has no valid partial detuning.
-/

namespace M3Midi

open Foundation

/-- What a host calls between initialization and termination. The arguments are those of the host,
and calls in a wrong order are refused as the source refuses them. -/
inductive HostCall
  | setupProcessing (setup : ProcessSetup)
  | activate (granted : Bool)
  | deactivate
  | setProcessing (state : Bool)
  | process (data : ProcessData)
  | setParamNormalized (id : ParameterId) (normalized : Option ℚ)
  | setState (bytes : List Byte)
  | getState

/-- What matters to the calibration: a restored bank, and an accepted call of the
audio thread. -/
inductive CalibrationEvent
  | restored (bank : StringCalibrationBank)
  | block

/-- The bank last restored, and whether the audio thread has had it. This is the specification: it
knows nothing of transports and generations. -/
structure Handover where
  bank : StringCalibrationBank
  handed : Bool

/-- What the audio thread is to know after an event. -/
def Handover.after (handover : Handover) : CalibrationEvent → Handover
  | .restored bank => { bank, handed := false }
  | .block => { handover with handed := true }

/-- The handover after a log, from the factory's bank. -/
def handoverOf (factory : StringCalibrationBank) (log : List CalibrationEvent) : Handover :=
  log.foldl Handover.after { bank := factory, handed := true }

/-- The bank is kept: it has not been handed over yet, or the transport keeps it. -/
def Handover.Kept (handover : Handover) : Prop :=
  handover.handed = true → Undetuned handover.bank

namespace M3Component

/-- The component after a call of the host. -/
def hostStep (factory : StringCalibrationBank) (component : M3Component) : HostCall → M3Component
  | .setupProcessing setup => (component.setupProcessing setup).2
  | .activate granted => (component.activate granted).2
  | .deactivate => component.deactivate.2
  | .setProcessing state => (component.setProcessing state).2
  | .process data => (component.process data).2.component
  | .setParamNormalized id normalized => (component.setParamNormalized id normalized).2
  | .setState bytes => (component.setState factory bytes).2
  | .getState => component.getState.2

/-- What a call means for the calibration: a project restores a bank, and a block that is processed
hands it over. -/
def calibrationEvents (factory : StringCalibrationBank) (component : M3Component) :
    HostCall → List CalibrationEvent
  | .setState bytes =>
      if (component.setState factory bytes).1 then
        (loadState bytes).toList.map fun loaded =>
          .restored (mergeFactoryCalibration factory loaded.2)
      else []
  | .process data => if (component.process data).1 then [.block] else []
  | _ => []

/-- The component as a machine that emits what matters to its calibration. -/
def hostMachine (factory : StringCalibrationBank) :
    Transducer HostCall M3Component CalibrationEvent where
  step component call :=
    (component.hostStep factory call, component.calibrationEvents factory call)

/-- The transports have room for another restore. -/
def RestoresLeft (component : M3Component) : HostCall → Prop
  | .setState _ => component.calibrationRestoreCounter.toNat < 2 ^ 31 - 2
  | _ => True

/-- Saving writes the image of a bank after the configuration's. -/
def Saves (component : M3Component) (bank : StringCalibrationBank) : Prop :=
  ∃ state image, encodeState component.configRequest.config = some state ∧
    encodeCalibrationState bank = some image ∧ component.getState.1 = some (state ++ image)

/-- An initialized component. -/
def start (factory : StringCalibrationBank) : M3Component :=
  (({} : M3Component).initializeComponent factory).2

end M3Component

/-- A calibration state that carries a handover. Until the audio thread has had the bank, the
restoring transport still holds it. Afterwards the published one does. -/
structure Carries (state : CalibrationState) (handover : Handover) : Prop where
  initialized : state.initialized = true
  valid : validBank handover.bank = true
  requestSteps : OnSteps state.request.config
  mainSteps : OnSteps state.mainConfig
  room : state.counter.toNat < 2 ^ 31 - 1
  generation : state.mainGeneration = state.counter
  restoreSequence : (state.restore .sequence).toNat = 2 * state.counter.toNat
  restore : state.restore.readLatest =
    if state.counter = 0 then none
    else some { bank := transported handover.bank, generation := state.mainGeneration }
  publishedEven : (state.published .sequence).toNat % 2 = 0
  publishedSequence : (state.published .sequence).toNat ≤
    2 * (state.counter.toNat + handover.handed.toNat)
  published : ∃ bank, state.published.readLatest =
      some { bank, generation := state.audioGeneration } ∧
    (handover.handed = true → bank = transported handover.bank)
  handed : state.audioGeneration = state.mainGeneration ↔ handover.handed = true
  audio : state.audioGeneration.toNat ≤ state.counter.toNat
  mainBank : handover.handed = false → state.mainBank = handover.bank

namespace Carries

variable {state : CalibrationState} {handover : Handover}

/-- The configurations may change to others on their steps. -/
theorem withConfigs (carries : Carries state handover) {request : ConfigRequestSnapshot}
    {mainConfig : PersistentConfig} (requestSteps : OnSteps request.config)
    (mainSteps : OnSteps mainConfig) :
    Carries { state with request, mainConfig } handover :=
  { carries with requestSteps, mainSteps }

/-- A bank that has not been handed over is there to be read. -/
theorem fresh (carries : Carries state handover) (unhanded : handover.handed = false) :
    state.restore.readLatest =
        some { bank := transported handover.bank, generation := state.mainGeneration } ∧
      state.mainGeneration ≠ state.audioGeneration := by
  have differs : state.mainGeneration ≠ state.audioGeneration := by
    intro same
    have contradiction := carries.handed.mp same.symm
    rw [unhanded] at contradiction
    exact absurd contradiction (by simp)
  have restored : state.counter ≠ 0 := by
    intro none_
    have zero : state.audioGeneration.toNat ≤ 0 := by simpa [none_] using carries.audio
    refine differs (BitVec.eq_of_toNat_eq ?_)
    rw [carries.generation, none_]
    exact (Nat.le_zero.mp zero).symm
  exact ⟨carries.restore.trans (if_neg restored), differs⟩

/-- An accepted call hands over what is to be handed over. -/
theorem handOver (carries : Carries state handover) :
    Carries state.handOver (handover.after .block) := by
  cases handed : handover.handed with
  | true =>
      have unchanged : state.handOver = state := by
        have same := carries.handed.mpr handed
        have read := carries.restore
        split_ifs at read
        · exact CalibrationState.handOver_unread read
        · exact CalibrationState.handOver_handed read same.symm
      have same : handover.after .block = handover := by
        unfold Handover.after
        rw [← handed]
      rw [unchanged, same]
      exact carries
  | false =>
      obtain ⟨read, differs⟩ := carries.fresh handed
      have sequence := carries.publishedSequence
      have even := carries.publishedEven
      have room := carries.room
      rw [handed, Bool.toNat_false, Nat.add_zero] at sequence
      have left : (state.published .sequence).toNat < 2 ^ 32 - 2 := by omega
      have next := CalibrationBankTransport.nextSequence_toNat even left
      rw [CalibrationState.handOver_fresh read differs]
      exact
        { carries with
          restore := carries.restore
          publishedEven := by
            dsimp only
            rw [CalibrationBankTransport.publish_sequence, next]
            omega
          publishedSequence := by
            change (state.published.publish _ _ .sequence).toNat ≤ 2 * (state.counter.toNat + 1)
            rw [CalibrationBankTransport.publish_sequence, next]
            omega
          published := by
            refine ⟨_, CalibrationBankTransport.readLatest_publish_room left, fun _ => ?_⟩
            exact transported_transported _
          handed := ⟨fun _ => rfl, fun _ => rfl⟩
          audio := carries.generation ▸ le_rfl
          mainBank := fun unhanded => absurd unhanded (by simp [Handover.after]) }

/-- The main thread adopts the transported copy of a bank that was handed over. -/
theorem adopt (carries : Carries state handover) : Carries state.adopt handover := by
  obtain ⟨bank, read, copy⟩ := carries.published
  by_cases current : state.audioGeneration = state.mainGeneration
  · rw [CalibrationState.adopt_current read current]
    have handed := carries.handed.mp current
    exact { carries with mainBank := fun unhanded => absurd (handed.symm.trans unhanded) (by simp) }
  · rw [CalibrationState.adopt_stale read current]
    exact carries

/-- The bank the main thread has after it adopted. -/
theorem adopt_mainBank (carries : Carries state handover) :
    state.adopt.mainBank =
      if handover.handed then transported handover.bank else handover.bank := by
  obtain ⟨bank, read, copy⟩ := carries.published
  by_cases current : state.audioGeneration = state.mainGeneration
  · have handed := carries.handed.mp current
    rw [CalibrationState.adopt_current read current, if_pos handed]
    exact copy handed
  · have unhanded : handover.handed = false := by simpa using mt carries.handed.mpr current
    rw [CalibrationState.adopt_stale read current, if_neg (by simp [unhanded])]
    exact carries.mainBank unhanded

/-- Another bank is restored. The transport carries it up to its detunings, under a new generation.
-/
theorem restored (carries : Carries state handover) (left : state.counter.toNat < 2 ^ 31 - 2)
    {bank : StringCalibrationBank} (valid : validBank bank = true) :
    Carries
      { state with
        counter := state.counter + 1
        mainBank := bank
        mainGeneration := state.counter + 1
        restore := state.restore.publish bank (state.counter + 1) }
      (handover.after (.restored bank)) := by
  have counted : (state.counter + 1).toNat = state.counter.toNat + 1 := by
    rw [BitVec.toNat_add, show BitVec.toNat (1 : BitVec 32) = 1 from rfl]
    omega
  have sequence := carries.restoreSequence
  have published := carries.publishedSequence
  have audio := carries.audio
  have even : (state.restore .sequence).toNat % 2 = 0 := by omega
  have room : (state.restore .sequence).toNat < 2 ^ 32 - 2 := by omega
  have next := CalibrationBankTransport.nextSequence_toNat even room
  have nonzero : state.counter + 1 ≠ 0 := by
    intro zero
    have value := congrArg BitVec.toNat zero
    rw [counted] at value
    exact absurd value (Nat.succ_ne_zero _)
  exact
    { carries with
      valid := valid
      room := by
        change (state.counter + 1).toNat < _
        omega
      generation := rfl
      restoreSequence := by
        dsimp only
        rw [CalibrationBankTransport.publish_sequence, next, counted]
        omega
      restore := by
        rw [if_neg nonzero]
        exact CalibrationBankTransport.readLatest_publish_room room
      publishedSequence := by
        change (state.published .sequence).toNat ≤ 2 * ((state.counter + 1).toNat + 0)
        have once := Bool.toNat_le handover.handed
        omega
      published := by
        obtain ⟨other, read, -⟩ := carries.published
        exact ⟨other, read, fun handed => absurd handed (by simp [Handover.after])⟩
      handed := by
        refine iff_of_false ?_ (by simp [Handover.after])
        intro same
        have value : state.audioGeneration.toNat = (state.counter + 1).toNat :=
          congrArg BitVec.toNat same
        omega
      audio := by
        change state.audioGeneration.toNat ≤ (state.counter + 1).toNat
        omega
      mainBank := fun _ => rfl }

end Carries

namespace M3Component

variable {component : M3Component} {handover : Handover}

/-- An initialized component carries the factory's bank. -/
theorem start_carries {factory : StringCalibrationBank} (valid : validBank factory = true) :
    Carries (start factory).calibration { bank := factory, handed := true } where
  initialized := rfl
  valid := valid
  requestSteps := onSteps_default
  mainSteps := onSteps_default
  room := by
    change (0 : BitVec 32).toNat < _
    decide
  generation := rfl
  restoreSequence := rfl
  restore := by
    refine (CalibrationBankTransport.readLatest_eq .reset (by decide)).trans ?_
    rfl
  publishedEven := by
    change (CalibrationBankTransport.reset.publish factory 0 .sequence).toNat % 2 = 0
    rw [CalibrationBankTransport.publish_sequence]
    rfl
  publishedSequence := by
    change (CalibrationBankTransport.reset.publish factory 0 .sequence).toNat ≤ 2 * (0 + 1)
    rw [CalibrationBankTransport.publish_sequence]
    exact le_rfl
  published :=
    ⟨_, CalibrationBankTransport.readLatest_publish_room (by decide), fun _ => rfl⟩
  handed := iff_of_true rfl rfl
  audio := le_rfl
  mainBank := fun unhanded => absurd unhanded (by simp)

/-- Publishing a configuration on its steps, whether it succeeds or not. -/
theorem publishMainConfig_carries (carries : Carries component.calibration handover)
    {config : PersistentConfig} (steps : OnSteps config) :
    Carries (component.publishMainConfig config).2.calibration handover ∧
      (component.publishMainConfig config).2.calibrationRestoreCounter =
        component.calibrationRestoreCounter := by
  rcases publishMainConfig_cases component config with
    ⟨-, settled⟩ | ⟨exchange, failed⟩ | ⟨exchange, prepared, generation, valid, -, published⟩
  · rw [settled]
    exact ⟨carries.withConfigs carries.requestSteps steps, rfl⟩
  · rw [failed]
    exact ⟨carries, rfl⟩
  · rw [published]
    exact ⟨carries.withConfigs steps steps, rfl⟩

/-- An edited parameter leaves the hand-over as it is. -/
theorem setParamNormalized_carries (carries : Carries component.calibration handover)
    (id : ParameterId) (normalized : Option ℚ) :
    Carries (component.setParamNormalized id normalized).2.calibration handover := by
  rcases setParamNormalized_cases component id normalized with
    refused | ⟨-, panic⟩ | ⟨spec, plain, -, -, -, edited⟩
  · rw [refused]
    exact carries
  · rw [panic]
    exact carries
  · have steps : OnSteps (applyParameter component.mainConfig id (some plain)).2 :=
      carries.mainSteps.applyParameter id (some plain)
    have published := (publishMainConfig_carries carries steps).1
    rw [edited]
    cases outcome : component.publishMainConfig
        (applyParameter component.mainConfig id (some plain)).2 with
    | mk accepted next =>
        rw [outcome] at published
        cases accepted <;> exact published

theorem setupProcessing_carries (carries : Carries component.calibration handover)
    (setup : ProcessSetup) :
    Carries (component.setupProcessing setup).2.calibration handover := by
  unfold setupProcessing
  split_ifs
  · exact carries
  · dsimp only
    split
    · exact carries
    · exact carries.withConfigs carries.requestSteps carries.requestSteps

theorem getState_carries (carries : Carries component.calibration handover) :
    Carries component.getState.2.calibration handover := by
  unfold getState
  split_ifs
  · exact carries
  · dsimp only
    rw [calibration_adoptPublishedCalibration]
    exact carries.adopt

/-- An activation adopts what has come back, whether it succeeds or not. -/
theorem activate_carries (carries : Carries component.calibration handover) (granted : Bool) :
    Carries (component.activate granted).2.calibration handover := by
  unfold activate
  split_ifs
  · exact carries
  · cases component.preparationFor with
    | none => exact carries
    | some prepared =>
        dsimp only
        cases component.generatedNotes.activatePreservingPending
            component.processSetup.maxSamplesPerBlock.toNat granted with
        | mk allocated ledger =>
            cases allocated with
            | false => exact carries
            | true =>
                have activated : Carries
                    ({ component with generatedNotes := ledger }.activateWith
                      prepared).adoptPublishedCalibration.calibration handover := by
                  rw [calibration_adoptPublishedCalibration]
                  exact (carries.withConfigs carries.requestSteps carries.requestSteps).adopt
                dsimp only
                generalize ({ component with generatedNotes := ledger }.activateWith
                  prepared).adoptPublishedCalibration = adopted at activated ⊢
                cases outcome : adopted.configureDetector _ with
                | mk configured next =>
                    have frame : next.calibration = adopted.calibration :=
                      (congrArg (fun outcome => outcome.2.calibration) outcome).symm
                    cases configured with
                    | false => exact frame ▸ activated
                    | true => exact frame ▸ activated

/-- What a project loads: a configuration on its steps and a valid bank. -/
theorem loadState_valid {bytes : List Byte} {config : PersistentConfig}
    {bank : StringCalibrationBank} (loaded : loadState bytes = some (config, bank)) :
    OnSteps config ∧ validBank bank = true := by
  unfold loadState at loaded
  obtain ⟨decoded, image, rest⟩ := Option.bind_eq_some_iff.mp loaded
  split_ifs at rest
  · obtain ⟨rfl, rfl⟩ := Prod.mk.inj (Option.some.inj rest)
    exact ⟨decodeState_onSteps image, validBank_empty⟩
  · obtain ⟨found, calibration, same⟩ := Option.map_eq_some_iff.mp rest
    obtain ⟨rfl, rfl⟩ := Prod.mk.inj same
    exact ⟨decodeState_onSteps image, decodeCalibrationState_valid calibration⟩

/-- A restore replaces the bank that is carried. -/
theorem setState_carries {factory : StringCalibrationBank} (factoryValid : validBank factory = true)
    (carries : Carries component.calibration handover) {bytes : List Byte}
    (left : component.calibrationRestoreCounter.toNat < 2 ^ 31 - 2) :
    Carries (component.setState factory bytes).2.calibration
      ((component.calibrationEvents factory (.setState bytes)).foldl Handover.after handover) := by
  unfold calibrationEvents
  dsimp only
  rcases setState_cases component factory bytes with
    refused | ⟨exchange, failed⟩ | ⟨config, bank, next, loaded, published, restored⟩
  · rw [refused]
    exact carries
  · rw [failed]
    exact carries
  · obtain ⟨steps, valid⟩ := loadState_valid loaded
    obtain ⟨kept, counter⟩ := publishMainConfig_carries carries steps
    rw [published] at kept counter
    have room : next.calibration.counter.toNat < 2 ^ 31 - 2 :=
      (congrArg BitVec.toNat counter).trans_lt left
    rw [restored, loaded]
    exact kept.restored room (validBank_merge factoryValid valid)

/-- A block is processed exactly if its parameters can be read. -/
theorem process_answer (component : M3Component) (data : ProcessData) :
    (component.process data).1 = (component.readBatch data).isSome := by
  unfold process
  cases component.readBatch data with
  | none => rfl
  | some batch =>
      dsimp only
      split_ifs <;> rfl

/-- A block that is processed hands a restored bank over. A refused one does not. -/
theorem process_carries (carries : Carries component.calibration handover) {data : ProcessData}
    (factory : StringCalibrationBank) :
    Carries (component.process data).2.component.calibration
      ((component.calibrationEvents factory (.process data)).foldl Handover.after handover) := by
  unfold calibrationEvents
  dsimp only
  rw [calibration_process, process_answer]
  split_ifs
  · exact carries.handOver
  · exact carries

/-- Every call of the host carries the handover on. -/
theorem hostStep_carries {factory : StringCalibrationBank} (factoryValid : validBank factory = true)
    (carries : Carries component.calibration handover) {call : HostCall}
    (left : component.RestoresLeft call) :
    Carries (component.hostStep factory call).calibration
      ((component.calibrationEvents factory call).foldl Handover.after handover) := by
  cases call with
  | setupProcessing setup => exact setupProcessing_carries carries setup
  | activate granted => exact activate_carries carries granted
  | deactivate =>
      change Carries component.deactivate.2.calibration handover
      rw [calibration_deactivate]
      exact carries
  | setProcessing state =>
      change Carries (component.setProcessing state).2.calibration handover
      rw [calibration_setProcessing]
      exact carries
  | process data => exact process_carries carries factory
  | setParamNormalized id normalized => exact setParamNormalized_carries carries id normalized
  | setState bytes => exact setState_carries factoryValid carries left
  | getState => exact getState_carries carries

/-- Along a run with room for its restores, the component carries what was restored. -/
theorem run_carries {factory : StringCalibrationBank} (factoryValid : validBank factory = true)
    {calls : List HostCall} (meets : (hostMachine factory).Meets RestoresLeft (start factory) calls) :
    Carries ((hostMachine factory).run (start factory) calls).1.calibration
      (handoverOf factory ((hostMachine factory).run (start factory) calls).2) := by
  have preserved (log : List CalibrationEvent) (component : M3Component) (call : HostCall)
      (carries : Carries component.calibration (handoverOf factory log))
      (left : component.RestoresLeft call) :
      Carries (component.hostStep factory call).calibration
        (handoverOf factory (log ++ component.calibrationEvents factory call)) := by
    unfold handoverOf
    rw [List.foldl_append]
    exact hostStep_carries factoryValid carries left
  have begun : Carries (start factory).calibration (handoverOf factory []) :=
    start_carries factoryValid
  have carried := (hostMachine factory).run_invariant_of_meets preserved begun meets
  rwa [List.nil_append] at carried

/-- The main thread saves and activates with the bank that came back. -/
theorem adopted_eq_iff (carries : Carries component.calibration handover) :
    component.adoptPublishedCalibration.mainCalibrationBank = handover.bank ↔ handover.Kept := by
  have adopted := carries.adopt_mainBank
  rw [← calibration_adoptPublishedCalibration] at adopted
  change component.adoptPublishedCalibration.mainCalibrationBank = _ at adopted
  rw [adopted]
  unfold Handover.Kept
  split_ifs with handed
  · rw [transported_eq_iff carries.valid, imp_iff_right handed]
  · exact iff_of_true rfl (fun contrary => absurd contrary handed)

/-- A save writes the image of the bank that came back, and of no other. -/
theorem saves_iff (carries : Carries component.calibration handover) :
    component.Saves handover.bank ↔ handover.Kept := by
  rw [← adopted_eq_iff carries]
  have initialized : component.initialized = true := carries.initialized
  have saved : component.getState.1 = saveState component.configRequest.config
      component.adoptPublishedCalibration.mainCalibrationBank := by
    unfold getState
    rw [if_neg (by simp [initialized])]
  obtain ⟨state, encoded⟩ := Option.isSome_iff_exists.mp carries.requestSteps.encodes
  change encodeState component.configRequest.config = some state at encoded
  constructor
  · rintro ⟨other, image, otherEncoded, bankEncoded, written⟩
    obtain rfl := Option.some.inj (otherEncoded.symm.trans encoded)
    rw [saved, saveState, encoded, Option.bind_some] at written
    obtain ⟨adoptedImage, adoptedEncoded, joined⟩ := Option.map_eq_some_iff.mp written
    obtain rfl := List.append_cancel_left joined
    exact encodeCalibrationState_inj adoptedEncoded bankEncoded
  · intro same
    have valid : (encodeCalibrationState handover.bank).isSome = true :=
      encodeCalibrationState_isSome.trans carries.valid
    obtain ⟨image, bankEncoded⟩ := Option.isSome_iff_exists.mp valid
    refine ⟨state, image, encoded, bankEncoded, ?_⟩
    rw [saved, same, saveState, encoded, Option.bind_some, bankEncoded, Option.map_some]

/-- A successful activation hands the detector the bank that came back. -/
theorem activate_bank_iff (carries : Carries component.calibration handover) {granted : Bool}
    (activated : (component.activate granted).1 = true) :
    (component.activate granted).2.detector.calibrationBank = handover.bank ↔ handover.Kept := by
  have outcome : component.activate granted = (true, (component.activate granted).2) :=
    Prod.ext activated rfl
  obtain ⟨-, prepared, ledger, -, -, started⟩ := activate_cases outcome
  have activating : Carries
      ({ component with generatedNotes := ledger }.activateWith prepared).calibration handover :=
    carries.withConfigs carries.requestSteps carries.requestSteps
  rw [started]
  exact adopted_eq_iff activating

/-- The audio thread hands the detector the transported copy of a restored bank. -/
theorem applyCalibrationRestore_bank_iff (carries : Carries component.calibration handover)
    (unhanded : handover.handed = false) :
    component.applyCalibrationRestore.detector.calibrationBank = handover.bank ↔
      Undetuned handover.bank := by
  obtain ⟨read, differs⟩ := carries.fresh unhanded
  change component.calibrationRestore.readLatest = _ at read
  change component.mainCalibrationRestoreGeneration ≠ component.audioCalibrationRestoreGeneration
    at differs
  rw [← transported_eq_iff carries.valid]
  unfold applyCalibrationRestore
  rw [read]
  dsimp only
  change (if component.mainCalibrationRestoreGeneration =
    component.audioCalibrationRestoreGeneration then _ else _ : M3Component).detector.calibrationBank
      = _ ↔ _
  rw [if_neg differs]

/-- **When a restored bank is kept.** A valid bank passes the transport unchanged
exactly when none of its points has a valid partial detuning and the sequence has
room. Along a run with room for its restores, the bank last restored is saved, and
handed to the detector by an activation, exactly when the audio thread has not had
it yet or it has no valid partial detuning; and the audio thread hands it on
unchanged exactly in the latter case. -/
theorem run_restored_bank_iff (transport : CalibrationBankTransport) (bank : StringCalibrationBank)
    (encodes : (encodeCalibrationState bank).isSome = true) (generation : BitVec 32)
    (image : List Byte) (calls : List HostCall)
    (meets : (hostMachine (factoryCalibrationBank image)).Meets RestoresLeft
      (start (factoryCalibrationBank image)) calls) :
    ((transport.publish bank generation).readLatest = some { bank, generation } ↔
        Undetuned bank ∧ (transport .sequence).toNat < 2 ^ 32 - 2) ∧
      let outcome := (hostMachine (factoryCalibrationBank image)).run
        (start (factoryCalibrationBank image)) calls
      let handover := handoverOf (factoryCalibrationBank image) outcome.2
      (outcome.1.Saves handover.bank ↔ handover.Kept) ∧
        (∀ granted, (outcome.1.activate granted).1 = true →
          ((outcome.1.activate granted).2.detector.calibrationBank = handover.bank ↔
            handover.Kept)) ∧
        (handover.handed = false →
          (outcome.1.applyCalibrationRestore.detector.calibrationBank = handover.bank ↔
            Undetuned handover.bank)) := by
  have carries := run_carries (validBank_factory image) meets
  constructor
  · exact CalibrationBankTransport.readLatest_publish_iff
      (encodeCalibrationState_isSome.symm.trans encodes)
  · intro outcome handover
    exact ⟨saves_iff carries, fun granted => activate_bank_iff carries,
      applyCalibrationRestore_bank_iff carries⟩

/-- A saved project with the default configuration and the sharp bank. -/
def sharpState : List Byte := (saveState {} sharpBank).getD []

/-- The example's image is read as a bank without detunings. -/
theorem loadState_sharpState : loadState sharpState = some ({}, sharpBank) := by
  obtain ⟨state, stateEncoded⟩ := Option.isSome_iff_exists.mp
    (show (encodeState {}).isSome = true by decide +kernel)
  obtain ⟨image, imageEncoded⟩ := Option.isSome_iff_exists.mp sharpBank_encodes
  obtain ⟨rounded, -, loaded, -, same⟩ := loadState_saved stateEncoded imageEncoded
  rw [same (canonical_iff_onSteps.mpr onSteps_default)] at loaded
  rwa [sharpState, saveState, stateEncoded, imageEncoded]

/-- What a host calls to get a plug-in running. -/
def startedCalls : List HostCall :=
  [.setupProcessing smallSetup, .activate true, .setProcessing true]

/-- A plug-in that has been set up, activated and started. -/
def sharpStart : M3Component :=
  ((hostMachine (factoryCalibrationBank [])).run (start (factoryCalibrationBank []))
    startedCalls).1

/-- The calls that start the example lead to its started component. -/
theorem run_startedCalls : (hostMachine (factoryCalibrationBank [])).run
    (start (factoryCalibrationBank [])) startedCalls = (sharpStart, []) := Prod.ext rfl rfl

/-- The started component can process a block. -/
theorem sharpStart_ready :
    sharpStart.initialized = true ∧ samePersistentConfig sharpStart.mainConfig {} = true ∧
      sharpStart.calibrationRestoreCounter.toNat < 2 ^ 31 - 2 ∧
        (sharpStart.readBatch quietBlock).isSome = true := by
  decide +kernel

/-- A project with the configuration that is there is taken, and leaves the audio thread's calls
as they are. -/
theorem setState_unedited {factory bank : StringCalibrationBank} {bytes : List Byte}
    {config : PersistentConfig} (initialized : component.initialized = true)
    (loaded : loadState bytes = some (config, bank))
    (unedited : samePersistentConfig component.mainConfig config = true) :
    (component.setState factory bytes).1 = true ∧
      ∀ data, (component.setState factory bytes).2.readBatch data = component.readBatch data := by
  unfold setState
  rw [if_neg (by rw [initialized]; exact Bool.noConfusion), loaded]
  dsimp only
  rw [publishMainConfig, if_pos unedited]
  exact ⟨rfl, fun _ => rfl⟩

/-- A project and a block, both taken, restore the project's bank and hand it over. -/
theorem events_restored {factory bank : StringCalibrationBank} {bytes : List Byte}
    {config : PersistentConfig} {data : ProcessData}
    (loaded : loadState bytes = some (config, bank))
    (restores : (component.setState factory bytes).1 = true)
    (accepts : ((component.setState factory bytes).2.process data).1 = true) :
    ((hostMachine factory).run component [.setState bytes, .process data]).2 =
      [.restored (mergeFactoryCalibration factory bank), .block] := by
  change component.calibrationEvents factory (.setState bytes) ++
    ((component.setState factory bytes).2.calibrationEvents factory (.process data) ++ []) = _
  unfold calibrationEvents
  dsimp only
  rw [if_pos restores, if_pos accepts, loaded]
  rfl

/-- The running plug-in takes the saved project, and the next block. -/
theorem events_sharpState (factory : StringCalibrationBank) :
    ((hostMachine factory).run sharpStart [.setState sharpState, .process quietBlock]).2 =
      [.restored (mergeFactoryCalibration factory sharpBank), .block] := by
  obtain ⟨initialized, unedited, -, accepts⟩ := sharpStart_ready
  obtain ⟨restores, reads⟩ :=
    @setState_unedited sharpStart factory _ _ _ initialized loadState_sharpState unedited
  refine events_restored loadState_sharpState restores ?_
  rw [process_answer, reads]
  exact accepts

/-- A project is restored while the plug-in runs. A block later its bank has been handed over, and
is saved as it was. -/
theorem run_restored_bank_iff_sharp :
    let factory := factoryCalibrationBank []
    let bank := mergeFactoryCalibration factory sharpBank
    let outcome := (hostMachine factory).run (start factory)
      (startedCalls ++ [.setState sharpState, .process quietBlock])
    (CalibrationBankTransport.reset.publish sharpBank 1).readLatest =
        some { bank := sharpBank, generation := 1 } ∧
      outcome.2 = [.restored bank, .block] ∧ outcome.1.Saves bank := by
  have room : (hostMachine (factoryCalibrationBank [])).Meets RestoresLeft
      (start (factoryCalibrationBank []))
      (startedCalls ++ [.setState sharpState, .process quietBlock]) := by
    refine Transducer.meets_append _ ⟨trivial, trivial, trivial, trivial⟩ ?_
    rw [run_startedCalls]
    exact ⟨sharpStart_ready.2.2.1, trivial, trivial⟩
  obtain ⟨transports, saves, -⟩ := run_restored_bank_iff .reset sharpBank
    sharpBank_encodes 1 [] _ room
  have log : ((hostMachine (factoryCalibrationBank [])).run (start (factoryCalibrationBank []))
      (startedCalls ++ [.setState sharpState, .process quietBlock])).2 =
        [.restored (mergeFactoryCalibration (factoryCalibrationBank []) sharpBank), .block] := by
    rw [Transducer.run_append, run_startedCalls, List.nil_append]
    exact events_sharpState _
  have handed : handoverOf (factoryCalibrationBank []) [.restored
      (mergeFactoryCalibration (factoryCalibrationBank []) sharpBank), .block] =
        { bank := mergeFactoryCalibration (factoryCalibrationBank []) sharpBank, handed := true } :=
    rfl
  have kept : Handover.Kept
      { bank := mergeFactoryCalibration (factoryCalibrationBank []) sharpBank, handed := true } := by
    intro _
    decide +kernel
  rw [log, handed] at saves
  exact ⟨transports.mpr ⟨by decide +kernel, by decide⟩, log, saves.mpr kept⟩

/-- A detuned bank has an image, and comes out of the transport without its detuning. -/
theorem restored_bank_lost :
    (encodeCalibrationState detunedBank).isSome = true ∧
      (CalibrationBankTransport.reset.publish detunedBank 1).readLatest ≠
        some { bank := detunedBank, generation := 1 } := by
  have valid : validBank detunedBank = true := by decide +kernel
  refine ⟨encodeCalibrationState_isSome.trans valid, fun kept => ?_⟩
  have undetuned := (CalibrationBankTransport.readLatest_publish_iff valid).mp kept
  exact absurd (undetuned.1 ⟨0, by decide⟩ 0) (by decide)

end M3Component

end M3Midi
