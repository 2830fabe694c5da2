import M3Midi.Component.Boundary

/-! # Activation

An activation that has a preparation and storage succeeds exactly when the detector
accepts the configuration. A component that has been activated runs the requested
configuration, with a fresh exchange and no boundary open.
-/

namespace M3Midi

namespace M3Component

/-- The host may activate: the component is set up and neither active nor processing. -/
def MayActivate (component : M3Component) : Prop :=
  component.initialized = true ∧ component.setupComplete = true ∧ component.active = false ∧
    component.processing = false

/-- The component when the detector is configured for an activation. -/
def activating (component : M3Component) (prepared : PreparedConfig)
    (ledger : GeneratedNoteLedger) : M3Component :=
  ({ component with generatedNotes := ledger }.activateWith prepared).adoptPublishedCalibration

/-- A component after its initialization and a first setup. -/
def setUp (factory : StringCalibrationBank) (setup : ProcessSetup) : M3Component :=
  ((({} : M3Component).initializeComponent factory).2.setupProcessing setup).2

/-- A setup for realtime blocks of up to sixty-four samples at 48 kHz. -/
def smallSetup : ProcessSetup := { maxSamplesPerBlock := 64, sampleRate := some 48000 }

variable {component start : M3Component} {prepared : PreparedConfig} {ledger : GeneratedNoteLedger}
  {granted : Bool}

/-- Adopting a calibration changes the main thread's bank only. -/
theorem adoptPublishedCalibration_eq (component : M3Component) :
    component.adoptPublishedCalibration = { component with
      mainCalibrationBank := component.adoptPublishedCalibration.mainCalibrationBank } := by
  unfold adoptPublishedCalibration
  split
  · rfl
  · split_ifs <;> rfl

/-- The steps of an activation, put together. -/
theorem activating_eq (component : M3Component) (prepared : PreparedConfig)
    (ledger : GeneratedNoteLedger) :
    component.activating prepared ledger =
      { { component with generatedNotes := ledger }.activateWith prepared with
        mainCalibrationBank := (component.activating prepared ledger).mainCalibrationBank } :=
  adoptPublishedCalibration_eq _

/-- With a preparation and storage, only the detector can still refuse. -/
theorem activate_eq (may : component.MayActivate) (preparation : component.preparationFor = some prepared)
    (storage : component.generatedNotes.activatePreservingPending
      component.processSetup.maxSamplesPerBlock.toNat granted = (true, ledger)) :
    component.activate granted =
      match (component.activating prepared ledger).configureDetector
          (copyRuntimeConfig prepared.requested component.configRequest.config) with
      | (false, refused) => (false, refused.abandonActivation)
      | (true, configured) => (true, configured.startActive) := by
  obtain ⟨initialized, setup, inactive, idle⟩ := may
  unfold activate
  rw [if_neg (by simp [initialized, setup, inactive, idle]), preparation]
  dsimp only
  rw [storage]
  rfl

/-- The detector's answer depends on the setup's rate and the configuration alone. -/
theorem configureDetector_answer (component : M3Component) (config : PersistentConfig) :
    (component.configureDetector config).1 =
      validConfig component.processSetup.sampleRate config := by
  unfold configureDetector DetectorConfiguration.configure
  dsimp only
  cases valid : validConfig component.processSetup.sampleRate config <;> simp

/-- The detector is configured exactly if the configuration is valid for it. -/
theorem configureDetector_configured (component : M3Component) (config : PersistentConfig) :
    (component.configureDetector config).2.detector.configuration.configured =
      validConfig component.processSetup.sampleRate config := by
  unfold configureDetector DetectorConfiguration.configure
  dsimp only
  cases valid : validConfig component.processSetup.sampleRate config <;> simp

/-- A successful activation, taken apart. -/
theorem activate_cases (activated : component.activate granted = (true, start)) :
    component.MayActivate ∧ ∃ prepared ledger, component.preparationFor = some prepared ∧
      component.generatedNotes.activatePreservingPending
        component.processSetup.maxSamplesPerBlock.toNat granted = (true, ledger) ∧
      start = ((component.activating prepared ledger).configureDetector
        (copyRuntimeConfig prepared.requested component.configRequest.config)).2.startActive := by
  have may : component.MayActivate := by
    by_cases refused : component.initialized = false ∨ component.setupComplete = false ∨
        component.active = true ∨ component.processing = true
    · unfold activate at activated
      rw [if_pos refused] at activated
      exact nomatch activated
    · simp only [not_or, Bool.not_eq_false, Bool.not_eq_true] at refused
      exact refused
  refine ⟨may, ?_⟩
  cases preparation : component.preparationFor with
  | none =>
      unfold activate at activated
      obtain ⟨initialized, setup, inactive, idle⟩ := may
      rw [if_neg (by simp [initialized, setup, inactive, idle]), preparation] at activated
      exact nomatch activated
  | some prepared =>
      cases storage : component.generatedNotes.activatePreservingPending
          component.processSetup.maxSamplesPerBlock.toNat granted with
      | mk allocated ledger =>
          cases allocated with
          | false =>
              unfold activate at activated
              obtain ⟨initialized, setup, inactive, idle⟩ := may
              rw [if_neg (by simp [initialized, setup, inactive, idle]), preparation] at activated
              dsimp only at activated
              rw [storage] at activated
              exact nomatch activated
          | true =>
              refine ⟨prepared, ledger, rfl, rfl, ?_⟩
              rw [activate_eq may preparation storage] at activated
              cases outcome : (component.activating prepared ledger).configureDetector
                  (copyRuntimeConfig prepared.requested component.configRequest.config) with
              | mk configured next =>
                  rw [outcome] at activated
                  cases configured with
                  | false => exact nomatch activated
                  | true => exact (congrArg Prod.snd activated).symm

/-- An activated component's boundary, with the exchange that has been set up. -/
theorem boundary_startActive (component : M3Component) (prepared : PreparedConfig)
    (ledger : GeneratedNoteLedger) (config : PersistentConfig) :
    ((component.activating prepared ledger).configureDetector config).2.startActive.boundary =
      { exchange := component.preparedExchange.initializeExchange prepared
          component.configRequest.generation
        exchangeInitialized := true
        claimPending := false
        pending := false
        pendingConfig := component.pendingStructuralConfig
        activeConfig := copyRuntimeConfig prepared.requested component.configRequest.config
        requestedConfig := copyRuntimeConfig prepared.requested component.configRequest.config } := by
  rw [activating_eq]
  rfl

/-- After an activation the running configuration is the requested one. -/
theorem activate_fits (activated : component.activate granted = (true, start)) :
    Requested start.boundary start.activeConfig := by
  obtain ⟨-, prepared, ledger, -, -, rfl⟩ := activate_cases activated
  have boundary := boundary_startActive component prepared ledger
    (copyRuntimeConfig prepared.requested component.configRequest.config)
  have active := congrArg BoundaryState.activeConfig boundary
  change M3Component.activeConfig _ = _ at active
  rw [boundary, active]
  exact ⟨⟨⟨[], PreparedConfigExchange.atRest_initializeExchange _ _ _⟩, rfl, rfl, rfl,
    nofun⟩, fun _ => ⟨rfl, rfl⟩, nofun⟩

end M3Component

end M3Midi
