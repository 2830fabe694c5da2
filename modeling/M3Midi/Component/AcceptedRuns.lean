import M3Midi.Component.Activation
import M3Midi.Parameter.ImageCodec

/-! # Which accepted configurations run

The validators check a configuration field by field and the detector checks it as a
whole. A configuration that a validator accepts is refused by the detector exactly
when its note range is empty, or when the stage's tolerance let its reference pitch
leave the detector's range. An activation with it then fails, and a commit leaves
the detector unconfigured.
-/

namespace M3Midi

open Foundation

/-- What the detector still asks of an accepted configuration. -/
def PersistentConfig.Runs (config : PersistentConfig) : Prop :=
  config.lowestNote ≤ config.highestNote ∧
    minimumA4Hz ≤ config.a4Hz ∧ config.a4Hz ≤ maximumA4Hz

/-- A configuration that a validator accepts is valid for the detector exactly if it can run. -/
theorem AcceptedConfig.runs_iff {rate : ℚ} {config : PersistentConfig} (positive : 0 < rate)
    (accepted : AcceptedConfig rate config) :
    validConfig (some rate) config = true ↔ config.Runs :=
  validConfig_iff (near_of_valid (accepted.valid positive)) positive

/-- The detector says yes exactly to valid configurations. -/
theorem configure_answer (detector : DetectorConfiguration) (sampleRate : Option ℚ)
    (config : PersistentConfig) :
    (detector.configure sampleRate config).1 = validConfig sampleRate config := by
  unfold DetectorConfiguration.configure
  cases valid : validConfig sampleRate config <;> simp

/-- A preparation holds the configuration it was staged for. -/
theorem stagePreparedConfig_requested {config : PersistentConfig} {rate : Option ℚ}
    {prepared : PreparedConfig} (staged : stagePreparedConfig config rate = some prepared) :
    prepared.requested = config := by
  unfold stagePreparedConfig at staged
  cases rate with
  | none => exact nomatch staged
  | some rate =>
      dsimp only at staged
      split_ifs at staged
      obtain rfl := Option.some.inj staged
      rfl

/-- A preparation holds the rate it was staged at. -/
theorem stagePreparedConfig_sampleRate {config : PersistentConfig} {rate : Option ℚ}
    {prepared : PreparedConfig} (staged : stagePreparedConfig config rate = some prepared) :
    rate = some prepared.sampleRate := by
  unfold stagePreparedConfig at staged
  cases rate with
  | none => exact nomatch staged
  | some rate =>
      dsimp only at staged
      split_ifs at staged
      obtain rfl := Option.some.inj staged
      rfl

namespace M3Component

variable {component : M3Component} {rate : ℚ} {config : PersistentConfig}

/-- An activation has a preparation of every accepted configuration. -/
theorem preparationFor_accepted (positive : 0 < rate)
    (setup : component.processSetup.sampleRate = some rate)
    (requested : component.configRequest.config = config) (accepted : AcceptedConfig rate config) :
    ∃ prepared, component.preparationFor = some prepared ∧ prepared.requested = config := by
  unfold preparationFor
  dsimp only
  split_ifs with stale
  · rw [requested, setup]
    obtain ⟨prepared, staged⟩ := Option.isSome_iff_exists.mp
      ((stagePreparedConfig_isSome positive).trans (accepted.valid positive))
    exact ⟨prepared, staged, stagePreparedConfig_requested staged⟩
  · simp only [not_or, Bool.not_eq_false] at stale
    exact ⟨_, rfl, (samePersistentConfig_iff.mp stale.2.2.2).trans requested⟩

/-- With storage, an activation succeeds exactly when the detector accepts. -/
theorem activate_answer (may : component.MayActivate) (positive : 0 < rate)
    (setup : component.processSetup.sampleRate = some rate)
    (requested : component.configRequest.config = config) (accepted : AcceptedConfig rate config)
    {granted : Bool} {ledger : GeneratedNoteLedger}
    (storage : component.generatedNotes.activatePreservingPending
      component.processSetup.maxSamplesPerBlock.toNat granted = (true, ledger)) :
    (component.activate granted).1 = validConfig (some rate) config := by
  obtain ⟨prepared, preparation, same⟩ :=
    preparationFor_accepted positive setup requested accepted
  have copied : copyRuntimeConfig prepared.requested component.configRequest.config = config := by
    rw [same, requested]
    exact copyRuntimeConfig_eq (structuralConfigEqual_refl config)
  have answer := configureDetector_answer (component.activating prepared ledger) config
  have rated : (component.activating prepared ledger).processSetup.sampleRate = some rate := by
    rw [activating_eq]
    exact setup
  rw [rated] at answer
  rw [activate_eq may preparation storage, copied, ← answer]
  cases (component.activating prepared ledger).configureDetector config with
  | mk configured next => cases configured <;> rfl

/-- Raising the status to reconfiguring changes nothing else, and a ready component
stays one that is ready or reconfiguring. -/
theorem raiseStatus_reconfiguring (component : M3Component) :
    (component.raiseStatus .reconfiguring).structuralBoundaryPending =
        component.structuralBoundaryPending ∧
      (component.raiseStatus .reconfiguring).processSetup = component.processSetup ∧
      (component.status = .ready ∨ component.status = .reconfiguring →
        (component.raiseStatus .reconfiguring).status = .ready ∨
          (component.raiseStatus .reconfiguring).status = .reconfiguring) := by
  unfold raiseStatus
  split_ifs
  · exact ⟨rfl, rfl, fun _ => .inr rfl⟩
  · exact ⟨rfl, rfl, id⟩

/-- Looking for the matching preparation leaves the boundary open and the setup as
it is. -/
theorem claimMatchingPreparedConfig_frame (component : M3Component) :
    component.claimMatchingPreparedConfig.structuralBoundaryPending =
        component.structuralBoundaryPending ∧
      component.claimMatchingPreparedConfig.processSetup = component.processSetup ∧
      (component.status = .ready ∨ component.status = .reconfiguring →
        component.claimMatchingPreparedConfig.status = .ready ∨
          component.claimMatchingPreparedConfig.status = .reconfiguring) := by
  unfold claimMatchingPreparedConfig
  split_ifs
  · exact ⟨rfl, rfl, id⟩
  · dsimp only
    split_ifs
    · exact raiseStatus_reconfiguring { component with
        preparedExchange := component.preparedExchange.claimLatest.2 }
    · exact ⟨rfl, rfl, id⟩
    · exact raiseStatus_reconfiguring { component with
        preparedExchange := component.preparedExchange.claimLatest.2.cancel.2 }

/-- A commit that closes the boundary has configured the detector, whatever its
answer, and reports ready unless something else is wrong. -/
theorem adoptPreparedConfig_configured (component : M3Component) (claim : Claim)
    (pending : component.structuralBoundaryPending = true)
    (closed : (component.adoptPreparedConfig claim).structuralBoundaryPending = false) :
    (component.adoptPreparedConfig claim).detector.configuration.configured =
        validConfig component.processSetup.sampleRate
          (component.adoptPreparedConfig claim).activeConfig ∧
      (component.status = .ready ∨ component.status = .reconfiguring →
        (component.adoptPreparedConfig claim).status = .ready) := by
  unfold adoptPreparedConfig at closed ⊢
  dsimp only at closed ⊢
  by_cases refused : component.preparedExchange.commit.1 = false
  · rw [if_pos refused] at closed
    have kept := congrArg BoundaryState.pending (boundary_raiseStatus
      { component with
        preparedExchange := component.preparedExchange.commit.2.cancel.2
        preparedClaimPending := false } .invalidInputOrState)
    exact absurd (pending.symm.trans (kept.symm.trans closed)) (by simp)
  · rw [if_neg refused]
    split_ifs with waiting
    · exact ⟨configureDetector_configured _ _, fun _ => rfl⟩
    · exact ⟨configureDetector_configured _ _, fun status => status.resolve_right waiting⟩

/-- After a commit that closes the boundary, the detector is configured exactly
when it accepts the adopted configuration. -/
theorem commit_configured (component : M3Component)
    (pending : component.structuralBoundaryPending = true)
    (closed : component.commitPreparedConfigIfReleased.structuralBoundaryPending = false) :
    component.commitPreparedConfigIfReleased.detector.configuration.configured =
        validConfig component.processSetup.sampleRate
          component.commitPreparedConfigIfReleased.activeConfig ∧
      (component.status = .ready ∨ component.status = .reconfiguring →
        component.commitPreparedConfigIfReleased.status = .ready) := by
  unfold commitPreparedConfigIfReleased at closed ⊢
  rw [if_neg (by simp [pending])] at closed ⊢
  obtain ⟨claimed, same, open_, setup, status⟩ : ∃ claimed : M3Component,
      (if component.preparedClaimPending = true then component
        else component.claimMatchingPreparedConfig) = claimed ∧
      claimed.structuralBoundaryPending = true ∧ claimed.processSetup = component.processSetup ∧
      (component.status = .ready ∨ component.status = .reconfiguring →
        claimed.status = .ready ∨ claimed.status = .reconfiguring) := by
    obtain ⟨kept, setup, status⟩ := claimMatchingPreparedConfig_frame component
    split_ifs
    · exact ⟨component, rfl, pending, rfl, id⟩
    · exact ⟨_, rfl, kept.trans pending, setup, status⟩
  dsimp only at closed ⊢
  rw [same] at closed ⊢
  split_ifs at closed ⊢
  · exact absurd (open_.symm.trans ((raiseStatus_reconfiguring claimed).1.symm.trans closed))
      (by simp)
  · cases held : claimed.preparedExchange.claim with
    | none =>
        rw [held] at closed
        exact absurd (open_.symm.trans closed) (by simp)
    | some claim =>
        rw [held] at closed
        obtain ⟨configured, ready⟩ := adoptPreparedConfig_configured claimed claim open_ closed
        rw [← setup]
        exact ⟨configured, fun before => ready (status before)⟩

/-- **Which accepted configurations run.** A configuration that a validator accepts
at a positive rate is accepted by the detector, can be activated, and leaves the
detector configured when a commit adopts it, exactly when its note range is not
empty and its reference pitch lies in the detector's range. -/
theorem accepted_config_runs_iff (positive : 0 < rate) (accepted : AcceptedConfig rate config) :
    (∀ detector : DetectorConfiguration,
      (detector.configure (some rate) config).1 = true ↔ config.Runs) ∧
    (∀ (component : M3Component) (granted : Bool) (ledger : GeneratedNoteLedger),
      component.MayActivate → component.processSetup.sampleRate = some rate →
      component.configRequest.config = config →
      component.generatedNotes.activatePreservingPending
        component.processSetup.maxSamplesPerBlock.toNat granted = (true, ledger) →
      ((component.activate granted).1 = true ↔ config.Runs)) ∧
    ∀ component : M3Component, component.processSetup.sampleRate = some rate →
      component.structuralBoundaryPending = true →
      component.commitPreparedConfigIfReleased.structuralBoundaryPending = false →
      component.commitPreparedConfigIfReleased.activeConfig = config →
      (component.commitPreparedConfigIfReleased.detector.configuration.configured = true ↔
        config.Runs) ∧
      (component.status = .ready ∨ component.status = .reconfiguring →
        component.commitPreparedConfigIfReleased.status = .ready) := by
  have accepts := accepted.runs_iff positive
  refine ⟨fun detector => ?_, fun component granted ledger may setup requested storage => ?_,
    fun component setup pending closed adopted => ?_⟩
  · rw [configure_answer]
    exact accepts
  · rw [activate_answer may positive setup requested accepted storage]
    exact accepts
  · obtain ⟨configured, ready⟩ := commit_configured component pending closed
    rw [configured, setup, adopted]
    exact ⟨accepts, ready⟩

/-- A component that has been set up, and told the edited values. -/
def editedComponent : M3Component :=
  ((setUp {} smallSetup).setParamNormalized 0x4D330003 (some (83 / 160))).2.setParamNormalized
    0x4D330007 (some (16 / 84)) |>.2

/-- An edited configuration, at 48 kHz. -/
theorem accepted_config_runs_iff_edited :
    (∀ detector : DetectorConfiguration,
      (detector.configure (some 48000) editedConfig).1 = true ↔ editedConfig.Runs) ∧
    editedComponent.configRequest.config = editedConfig ∧
    (editedComponent.activate true).1 = true := by
  have runs : editedConfig.Runs := by
    unfold PersistentConfig.Runs
    decide +kernel
  have accepted : AcceptedConfig 48000 editedConfig :=
    .applied (.apply 0x4D330007 _ (.apply 0x4D330003 _ .default (by decide +kernel))
      (by decide +kernel))
  obtain ⟨detector, activation, -⟩ :=
    accepted_config_runs_iff (show (0 : ℚ) < 48000 by norm_num) accepted
  let ready := editedComponent
  have storage : ready.generatedNotes.activatePreservingPending
      ready.processSetup.maxSamplesPerBlock.toNat true = (true,
        (ready.generatedNotes.activatePreservingPending
          ready.processSetup.maxSamplesPerBlock.toNat true).2) := Prod.ext (by decide +kernel) rfl
  have may : ready.MayActivate := by
    unfold MayActivate
    decide +kernel
  have requested : ready.configRequest.config = editedConfig := by decide +kernel
  exact ⟨detector, requested,
    (activation ready true _ may (by decide +kernel) requested storage).mpr runs⟩

/-- The lowest note at the top of its range and the highest note at the bottom. -/
def emptyRange : PersistentConfig :=
  (applyParameter (applyParameter {} 0x4D330007 (some 108)).2 0x4D330008 (some 24)).2

/-- Two accepted edits make a configuration that the detector refuses at every rate,
so that the activation after them fails. -/
theorem accepted_config_refused :
    AcceptedConfig 48000 emptyRange ∧
      (∀ detector : DetectorConfiguration, (detector.configure (some 48000) emptyRange).1 = false) ∧
      let first := (setUp {} smallSetup).setParamNormalized 0x4D330007 (some 1)
      let second := first.2.setParamNormalized 0x4D330008 (some 0)
      first.1 = true ∧ second.1 = true ∧ second.2.mainConfig = emptyRange ∧
        (second.2.activate true).1 = false := by
  refine ⟨.applied (.apply 0x4D330008 (some 24) (.apply 0x4D330007 (some 108) .default ?_) ?_),
    fun detector => ?_, ?_⟩
  · decide +kernel
  · decide +kernel
  · rw [configure_answer]
    decide +kernel
  · decide +kernel

end M3Component

end M3Midi
