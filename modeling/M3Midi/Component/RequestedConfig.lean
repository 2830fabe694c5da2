import M3Midi.Component.Activation

/-! # What the audio thread runs is what was asked for

While no boundary is open, the configuration that runs is the one at activation
with every accepted change written to it. A block that arrives behind an open
boundary is read against the configuration that was requested before the boundary,
so it keeps this only when it means the same to the configuration the boundary
waits for.
-/

namespace M3Midi

open Foundation

/-- What happens to an active component: calls of the audio thread, publications of
the main thread, and the host's start and stop. -/
inductive AudioEvent
  | process (data : ProcessData)
  | publishPrepared (prepared : PreparedConfig) (generation : Generation)
  | setProcessing (state : Bool)

namespace M3Component

/-- The component after an event on the audio thread. -/
def audioStep (component : M3Component) : AudioEvent → M3Component
  | .process data => (component.process data).2.component
  | .publishPrepared prepared generation =>
      { component with
        preparedExchange := (component.preparedExchange.publish prepared generation).2 }
  | .setProcessing state => (component.setProcessing state).2

/-- The parameter values of an accepted block, in order. -/
def blockWrites (component : M3Component) (data : ProcessData) : List (ParameterId × ℚ) :=
  if (component.readBatch data).isSome then
    plainWrites ((boundaryWrites data.numSamples data.inputParameterChanges).getD [])
  else []

/-- The writes that an event brings, if its block is accepted. -/
def acceptedWrites (component : M3Component) : AudioEvent → List (ParameterId × ℚ)
  | .process data => component.blockWrites data
  | _ => []

/-- The audio side as a machine that emits the parameter values it accepts. -/
def audioMachine : Transducer AudioEvent M3Component (ParameterId × ℚ) where
  step component event := (component.audioStep event, component.acceptedWrites event)

/-- Behind an open boundary, a block that changes the requested structure asks for
the same configuration as if it had been applied to the pending one, and any other
block asks for nothing the pending configuration does not have. -/
def KeepsPending (component : M3Component) (data : ProcessData) : Prop :=
  let requested := idFields.writeAll component.audioRequestedConfig (component.blockWrites data)
  let pending := idFields.writeAll component.pendingStructuralConfig (component.blockWrites data)
  component.structuralBoundaryPending = true →
    if structuralConfigEqual requested component.audioRequestedConfig then
      pending = component.pendingStructuralConfig
    else pending = requested

/-- The condition can be computed from the component and the block. -/
instance (component : M3Component) (data : ProcessData) : Decidable (component.KeepsPending data) := by
  unfold KeepsPending
  infer_instance

/-- The condition on an event; only blocks have one. -/
def EventKeepsPending (component : M3Component) : AudioEvent → Prop
  | .process data => component.KeepsPending data
  | _ => True

variable {component : M3Component} {requested : PersistentConfig}

/-- An accepted block's batch holds its values. -/
theorem readBatch_spec {data : ProcessData} {batch : ParameterBatch}
    (read : component.readBatch data = some batch) :
    batch.candidate =
        idFields.writeAll component.audioRequestedConfig (component.blockWrites data) ∧
      batch.Tracks component.audioRequestedConfig ∧
      (batch.structural = true →
        structuralConfigEqual batch.candidate component.audioRequestedConfig = false) := by
  have accepted : component.blockWrites data =
      plainWrites ((boundaryWrites data.numSamples data.inputParameterChanges).getD []) := by
    unfold blockWrites
    rw [read, Option.isSome_some, if_pos rfl]
  unfold readBatch at read
  split_ifs at read
  obtain ⟨writes, found, candidate, tracks⟩ := readLastBoundaryValues_spec read
  rw [found, Option.getD_some] at accepted
  exact ⟨accepted ▸ candidate, tracks, readLastBoundaryValues_structural read⟩

/-- A refused block brings none. -/
theorem blockWrites_refused {data : ProcessData} (refused : component.readBatch data = none) :
    component.blockWrites data = [] := by
  unfold blockWrites
  rw [refused]
  rfl

/-- Runtime changes reach the running and the requested configuration at once. -/
theorem applyBatch_runtime {batch : ParameterBatch} (changed : batch.changed = true)
    (runtime : batch.structural = false) :
    (component.applyBatch batch).boundary =
      { component.boundary with
        activeConfig := copyRuntimeConfig component.activeConfig batch.candidate
        requestedConfig := copyRuntimeConfig component.audioRequestedConfig batch.candidate } := by
  unfold applyBatch
  rw [if_neg (by simp [changed]), if_neg (by simp [runtime])]
  rfl

/-- Parameters that change nothing leave the component as it is. -/
theorem applyBatch_unchanged {batch : ParameterBatch} (unchanged : batch.changed = false) :
    component.applyBatch batch = component := by
  unfold applyBatch
  rw [if_pos unchanged]

/-- Parameters that change the structure open a boundary. -/
theorem applyBatch_structural {batch : ParameterBatch} (changed : batch.changed = true)
    (structural : batch.structural = true) :
    component.applyBatch batch = component.beginStructuralBoundary batch.candidate := by
  unfold applyBatch
  rw [if_neg (by simp [changed]), if_pos structural]

/-- With no boundary open, a block asks for its values on top of what runs. -/
theorem applyBatch_settled (fits : Requested component.boundary requested)
    (settled : component.structuralBoundaryPending = false) {data : ProcessData}
    {batch : ParameterBatch} (read : component.readBatch data = some batch) :
    Requested (component.applyBatch batch).boundary
      (idFields.writeAll requested (component.blockWrites data)) := by
  obtain ⟨candidate, tracks, -⟩ := readBatch_spec read
  obtain ⟨active, asked⟩ := fits.settled settled
  change component.activeConfig = requested at active
  change component.audioRequestedConfig = requested at asked
  rw [asked] at candidate tracks
  rw [← candidate]
  cases changed : batch.changed with
  | false =>
      rw [tracks.unchanged changed, applyBatch_unchanged changed]
      exact fits
  | true =>
      cases structural : batch.structural with
      | true =>
          rw [applyBatch_structural changed structural]
          exact fits.beginStructuralBoundary batch.candidate
      | false =>
          have same := structuralConfigEqual_symm (tracks.runtime structural)
          rw [applyBatch_runtime changed structural, active, asked, copyRuntimeConfig_eq same]
          exact ⟨⟨fits.rest, fits.initialized, fits.exchangeInitialized, fits.claimPending,
            fits.claimMatches⟩, fun _ => ⟨rfl, rfl⟩,
            fun pending => absurd (settled.symm.trans pending) (by simp)⟩

/-- Behind an open boundary, a change of structure replaces what is waited for, and
any other block leaves it alone. -/
theorem applyBatch_waiting (fits : Requested component.boundary requested)
    (pending : component.structuralBoundaryPending = true) (batch : ParameterBatch) :
    Requested (component.applyBatch batch).boundary
      (if batch.changed = true ∧ batch.structural = true then batch.candidate else requested) := by
  cases changed : batch.changed with
  | false =>
      rw [if_neg (by simp), applyBatch_unchanged changed]
      exact fits
  | true =>
      cases structural : batch.structural with
      | true =>
          rw [if_pos ⟨rfl, rfl⟩, applyBatch_structural changed structural]
          exact fits.beginStructuralBoundary batch.candidate
      | false =>
          rw [if_neg (by simp), applyBatch_runtime changed structural]
          exact ⟨⟨fits.rest, fits.initialized, fits.exchangeInitialized, fits.claimPending,
            fits.claimMatches⟩, fun settled => absurd (settled.symm.trans pending) (by simp),
            fits.waiting⟩

/-- Does a block change the structure of what is requested? -/
theorem readBatch_structural {data : ProcessData} {batch : ParameterBatch}
    (read : component.readBatch data = some batch) :
    (batch.changed = true ∧ batch.structural = true) ↔
      structuralConfigEqual (idFields.writeAll component.audioRequestedConfig
        (component.blockWrites data)) component.audioRequestedConfig = false := by
  obtain ⟨candidate, tracks, changes⟩ := readBatch_spec read
  rw [← candidate]
  constructor
  · exact fun structural => changes structural.2
  · intro differs
    have changed : batch.changed = true := by
      by_contra unchanged
      rw [Bool.not_eq_true] at unchanged
      rw [tracks.unchanged unchanged, structuralConfigEqual_refl] at differs
      exact absurd differs (by simp)
    refine ⟨changed, ?_⟩
    by_contra runtime
    rw [Bool.not_eq_true] at runtime
    exact absurd (differs.symm.trans (tracks.runtime runtime)) (by simp)

/-- Behind an open boundary, a block that keeps what is pending asks for its values
on top of what the boundary waits for. -/
theorem applyBatch_pending (fits : Requested component.boundary requested)
    (pending : component.structuralBoundaryPending = true) {data : ProcessData}
    {batch : ParameterBatch} (read : component.readBatch data = some batch)
    (keeps : component.KeepsPending data) :
    Requested (component.applyBatch batch).boundary
      (idFields.writeAll requested (component.blockWrites data)) := by
  have waits : component.pendingStructuralConfig = requested := fits.waiting pending
  have meaning := keeps pending
  have waiting := applyBatch_waiting fits pending batch
  rw [waits] at meaning
  by_cases structural : batch.changed = true ∧ batch.structural = true
  · have differs := (readBatch_structural read).mp structural
    rw [differs, if_neg (by simp)] at meaning
    rwa [if_pos structural, (readBatch_spec read).1, ← meaning] at waiting
  · have same := mt (readBatch_structural read).mpr structural
    rw [Bool.not_eq_false] at same
    rw [same, if_pos rfl] at meaning
    rwa [if_neg structural, ← meaning] at waiting

/-- The parameters of a block keep what has been requested, if they do not fall into a pending
boundary. -/
theorem applyBatch_fits (fits : Requested component.boundary requested) {data : ProcessData}
    {batch : ParameterBatch} (read : component.readBatch data = some batch)
    (keeps : component.KeepsPending data) :
    Requested (component.applyBatch batch).boundary
      (idFields.writeAll requested (component.blockWrites data)) := by
  cases pending : component.structuralBoundaryPending with
  | false => exact applyBatch_settled fits pending read
  | true => exact applyBatch_pending fits pending read keeps

/-- A call of the audio thread writes its accepted values to what is asked for. -/
theorem process_fits (fits : Requested component.boundary requested) {data : ProcessData}
    (keeps : component.KeepsPending data) :
    Requested (component.process data).2.component.boundary
      (idFields.writeAll requested (component.blockWrites data)) := by
  cases read : component.readBatch data with
  | none =>
      rw [blockWrites_refused read, boundary_process_refused read]
      exact fits
  | some batch =>
      have bounded := applyBatch_fits fits read keeps
      rw [← boundary_applyBoundary] at bounded
      rcases boundary_process read with same | ⟨retried, same, committed⟩
      · rwa [same]
      · rw [← same] at bounded
        rw [committed]
        exact bounded.commitPreparedConfigIfReleased

/-- A publication leaves the audio thread's claim and configurations alone. -/
theorem publishPrepared_fits (fits : Requested component.boundary requested)
    (prepared : PreparedConfig) (generation : Generation) :
    Requested (component.audioStep (.publishPrepared prepared generation)).boundary requested := by
  obtain ⟨calls, rest⟩ := fits.rest
  obtain ⟨kept, same, slots⟩ := rest.publish prepared generation
  have claim : (component.preparedExchange.publish prepared generation).2.claim =
      component.preparedExchange.claim := congrArg ConsumerView.claim same
  refine ⟨⟨⟨_, kept⟩, ?_, fits.exchangeInitialized, ?_, fun held claimed => ?_⟩, fits.settled,
    fits.waiting⟩
  · exact (PreparedConfigExchange.run_initialized _ _).trans fits.initialized
  · exact fits.claimPending.trans (congrArg Option.isSome claim.symm)
  · have before := claim.symm.trans claimed
    have state := (rest.outstanding before).1
    change _ ∧ structuralConfigEqual (((component.preparedExchange.publish prepared generation).2.slots
      held.index).prepared.requested) component.pendingStructuralConfig = true
    rw [show (component.preparedExchange.publish prepared generation).2.slots held.index =
      component.preparedExchange.slots held.index from slots held.index (.inr state)]
    exact fits.claimMatches held before

/-- One event writes the values it accepts to what is asked for. -/
theorem audioStep_fits (fits : Requested component.boundary requested) {event : AudioEvent}
    (keeps : component.EventKeepsPending event) :
    Requested (component.audioStep event).boundary
      (idFields.writeAll requested (component.acceptedWrites event)) := by
  cases event with
  | process data => exact process_fits fits keeps
  | publishPrepared prepared generation => exact publishPrepared_fits fits prepared generation
  | setProcessing state =>
      change Requested (component.setProcessing state).2.boundary requested
      rw [boundary_of_core (core_setProcessing component state)]
      exact fits

/-- **No accepted change is lost.** In every run from an activation in which each
block keeps what is pending, whenever no boundary is open the component runs, and
would be asked to run, the configuration at activation with every accepted value
written to it in order. -/
theorem run_requested_config {before start : M3Component} {granted : Bool}
    (activated : before.activate granted = (true, start)) {events : List AudioEvent}
    (keeps : audioMachine.Meets EventKeepsPending start events) :
    let final := audioMachine.run start events
    final.1.structuralBoundaryPending = false →
      final.1.activeConfig = idFields.writeAll start.activeConfig final.2 ∧
        final.1.audioRequestedConfig = idFields.writeAll start.activeConfig final.2 := by
  intro final settled
  have preserved (log : List (ParameterId × ℚ)) (state : M3Component) (event : AudioEvent)
      (fits : Requested state.boundary (idFields.writeAll start.activeConfig log))
      (keeps : state.EventKeepsPending event) :
      Requested (audioMachine.step state event).1.boundary
        (idFields.writeAll start.activeConfig (log ++ (audioMachine.step state event).2)) := by
    rw [idFields.writeAll_append]
    exact audioStep_fits fits keeps
  have holds : Requested start.boundary (idFields.writeAll start.activeConfig []) :=
    activate_fits activated
  exact (audioMachine.run_invariant_of_meets preserved holds keeps).settled settled

/-- A block of samples in a supported layout, for a host that takes every event. -/
def quietBlock : ProcessData where
  numSamples := 64
  outputEvents := some fun _ _ _ => true
  audio := some {}

/-- A block without samples that sets one parameter. -/
def parameterBlock (id : ParameterId) (normalized : ℚ) : ProcessData where
  inputParameterChanges := some (.single id normalized)

/-- A structural change alone, published in time. -/
theorem run_requested_config_lowestNote :
    let start := ((setUp {} smallSetup).activate true).2
    let final := audioMachine.run start [.setProcessing true,
      .process (parameterBlock 0x4D330007 (16 / 84)),
      .publishPrepared { requested := { lowestNote := 40 }, sampleRate := 48000 } 2,
      .process quietBlock]
    final.1.structuralBoundaryPending = false →
      final.1.activeConfig = idFields.writeAll start.activeConfig final.2 ∧
        final.1.audioRequestedConfig = idFields.writeAll start.activeConfig final.2 := by
  have activated : (setUp {} smallSetup).activate true =
      (true, ((setUp {} smallSetup).activate true).2) := Prod.ext (by decide +kernel) rfl
  refine run_requested_config activated ⟨trivial, ?_, trivial, ?_, trivial⟩
  · change KeepsPending _ _
    decide +kernel
  · change KeepsPending _ _
    decide +kernel

/-- A runtime change behind an open boundary is dropped when the boundary commits:
the boundary waits for lowest note 40, the block asks for sensitivity 60, and the
component ends with the old sensitivity. -/
theorem requested_config_lost :
    ∃ (before start : M3Component) (events : List AudioEvent),
      before.activate true = (true, start) ∧
        (audioMachine.run start events).1.structuralBoundaryPending = false ∧
        (audioMachine.run start events).1.activeConfig ≠
          idFields.writeAll start.activeConfig (audioMachine.run start events).2 := by
  refine ⟨setUp {} smallSetup, ((setUp {} smallSetup).activate true).2, [.setProcessing true,
    .process (parameterBlock 0x4D330007 (16 / 84)),
    .process (parameterBlock 0x4D330005 (60 / 100)),
    .publishPrepared { requested := { lowestNote := 40 }, sampleRate := 48000 } 2,
    .process quietBlock], Prod.ext (by decide +kernel) rfl, by decide +kernel, by decide +kernel⟩

end M3Component

end M3Midi
