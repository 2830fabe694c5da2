import M3Midi.Component.Soundness
import M3Midi.Component.RequestedConfig

/-! # A reconfiguration comes to its end

The main thread accumulates its edits on its own configuration, and the audio thread
accumulates what it is delivered on the configuration it requested. When both have
accumulated the same structure, the configuration an open boundary waits for is the
newest one on the exchange, and the next block whose releases are accepted commits
it.
-/

namespace M3Midi

open Foundation Foundation.SerialNumber PreparedConfigExchange

section Structure

variable {first second third : PersistentConfig}

/-- Configurations of one structure compare alike. -/
theorem structuralConfigEqual_congr (same : structuralConfigEqual second third = true) :
    structuralConfigEqual first second = structuralConfigEqual first third :=
  Bool.eq_iff_iff.mpr ⟨fun left => structuralConfigEqual_trans left same,
    fun left => structuralConfigEqual_trans left (structuralConfigEqual_symm same)⟩

/-- One write keeps configurations of one structure alike. -/
theorem structuralConfigEqual_write_both (same : structuralConfigEqual first second = true)
    (id : ParameterId) (value : ℚ) :
    structuralConfigEqual (idFields.write id value first) (idFields.write id value second) =
      true := by
  simp only [structuralConfigEqual, Bool.and_eq_true, decide_eq_true_eq, and_assoc] at same ⊢
  obtain ⟨routing, profile, a4Hz, lowest, highest, polyphony, fret, channel⟩ := same
  cases found : fieldOfId id with
  | none => simp [idFields, found, routing, profile, a4Hz, lowest, highest, polyphony, fret, channel]
  | some field =>
      cases field <;>
        simp [idFields, found, setField, routing, profile, a4Hz, lowest, highest, polyphony, fret,
          channel]

theorem structuralConfigEqual_writeAll (same : structuralConfigEqual first second = true)
    (writes : List (ParameterId × ℚ)) :
    structuralConfigEqual (idFields.writeAll first writes) (idFields.writeAll second writes) =
      true := by
  induction writes generalizing first second with
  | nil => exact same
  | cons write writes ih => exact ih (structuralConfigEqual_write_both same write.1 write.2)

end Structure

/-- The newest preparation on the exchange, and what it has to do with what runs: when
it is the active one, it has the structure that runs; and an open boundary waits for
another structure. -/
structure Tracked (base : Generation) (latest : PreparedConfig × Generation)
    (state : BoundaryState) : Prop where
  retains : Retains base latest state.exchange .idle
  running : latest.2 = state.exchange.activeGeneration →
    structuralConfigEqual latest.1.requested state.activeConfig = true
  requested : structuralConfigEqual state.requestedConfig state.activeConfig = true
  differs : state.pending = true →
    structuralConfigEqual state.pendingConfig state.activeConfig = false

namespace Tracked

variable {base : Generation} {latest : PreparedConfig × Generation} {before after : BoundaryState}

/-- A step on the boundary that adopts nothing keeps track of the newest preparation. -/
theorem turn (tracked : Tracked base latest before) (turns : Turns before after) :
    Tracked base latest after := by
  obtain ⟨calls, keeps⟩ := turns.keeps
  have kept := keeps.retains base latest tracked.retains
  have generation := turns.generation
  rw [turns.same] at generation kept ⊢
  exact ⟨kept, fun current => tracked.running (current.trans generation), tracked.requested,
    tracked.differs⟩

/-- An adopted configuration is the newest one or an older one with its structure. -/
theorem adopt (tracked : Tracked base latest before) (coherent : Coherent before) {claim : Claim}
    (adopts : Adopts before after claim) : Tracked base latest after := by
  obtain ⟨keptCalls, keeps⟩ := adopts.keeps
  obtain ⟨calls, rest⟩ := coherent.rest
  obtain ⟨held, generation, -⟩ := rest.outstanding adopts.claimed
  have kept := keeps.retains base latest tracked.retains
  have active := adopts.generation
  have same := (coherent.claimMatches claim adopts.claimed).2
  rw [adopts.same] at active kept ⊢
  refine ⟨kept, fun current => ?_, structuralConfigEqual_refl _, fun contrary => ?_⟩
  · have newest : (before.exchange.slots claim.index).generation = latest.2 :=
      generation.trans (active.symm.trans current.symm)
    rw [← tracked.retains.payload claim.index (.inr held) newest]
    exact same
  · exact absurd contrary (by simp)

variable {component : M3Component}

/-- A boundary that opens for another structure is tracked as pending. -/
theorem beginStructuralBoundary (tracked : Tracked base latest component.boundary)
    (coherent : Coherent component.boundary) {config : PersistentConfig}
    (differs : structuralConfigEqual config component.activeConfig = false) :
    Tracked base latest (component.beginStructuralBoundary config).boundary := by
  rcases coherent.beginStructuralBoundary config with
    ⟨-, -, same⟩ | ⟨dropped, turns, -, turned⟩
  · rwa [same]
  · have released := tracked.turn turns
    have runs : dropped.activeConfig = component.activeConfig := by rw [turns.same]; rfl
    refine turn ?_ turned
    exact ⟨released.retains, released.running, released.requested, fun _ => by
      dsimp only
      rwa [runs]⟩

/-- The commit keeps track, whether it adopts or waits. -/
theorem commitPreparedConfigIfReleased (tracked : Tracked base latest component.boundary)
    (coherent : Coherent component.boundary) :
    Tracked base latest component.commitPreparedConfigIfReleased.boundary := by
  rcases coherent.commitPreparedConfigIfReleased with turns | ⟨middle, claim, turns, adopts⟩
  · exact tracked.turn turns
  · exact (tracked.turn turns).adopt turns.coherent adopts

/-- A block's changes keep track: a runtime change changes no structure, and a
structural one asks for a structure that does not run. -/
theorem applyBatch (tracked : Tracked base latest component.boundary)
    (coherent : Coherent component.boundary) {data : ProcessData} {batch : ParameterBatch}
    (read : component.readBatch data = some batch) :
    Tracked base latest (component.applyBatch batch).boundary := by
  cases changed : batch.changed with
  | false => rwa [M3Component.applyBatch_unchanged changed]
  | true =>
      cases structural : batch.structural with
      | true =>
          obtain ⟨-, -, changes⟩ := M3Component.readBatch_spec read
          have differs := changes structural
          rw [M3Component.applyBatch_structural changed structural]
          refine tracked.beginStructuralBoundary coherent ?_
          exact (structuralConfigEqual_congr tracked.requested).symm.trans differs
      | false =>
          rw [M3Component.applyBatch_runtime changed structural]
          have active := structuralConfigEqual_copyRuntime component.activeConfig batch.candidate
          have asked := structuralConfigEqual_copyRuntime component.audioRequestedConfig
            batch.candidate
          refine ⟨tracked.retains, fun current => ?_, ?_, fun pending => ?_⟩
          · exact (structuralConfigEqual_congr active).trans (tracked.running current)
          · exact structuralConfigEqual_trans asked
              ((structuralConfigEqual_congr active).trans tracked.requested)
          · exact (structuralConfigEqual_congr active).trans (tracked.differs pending)

/-- A whole block keeps track, if its parameters leave the boundary coherent. -/
theorem process (tracked : Tracked base latest component.boundary)
    (coherent : Coherent component.boundary) {data : ProcessData}
    (bounded : ∀ batch, component.readBatch data = some batch →
      Coherent (component.applyBatch batch).boundary) :
    Tracked base latest (component.process data).2.component.boundary := by
  cases read : component.readBatch data with
  | none => rwa [M3Component.boundary_process_refused read]
  | some batch =>
      have applied := tracked.applyBatch coherent read
      have fits := bounded batch read
      rw [← M3Component.boundary_applyBoundary] at applied fits
      rcases M3Component.boundary_process read with same | ⟨retried, same, committed⟩
      · rwa [same]
      · rw [← same] at applied fits
        rw [committed]
        exact applied.commitPreparedConfigIfReleased fits

/-- A publish that returns true is tracked from then on. -/
theorem publish {state : BoundaryState} (tracked : Tracked base latest state)
    (coherent : Coherent state) {prepared : PreparedConfig} {generation : Generation}
    (inside : InWindow base generation)
    (newer : distance base latest.2 < distance base generation)
    {exchange : PreparedConfigExchange PreparedConfig}
    (published : state.exchange.publish prepared generation = (true, exchange)) :
    Tracked base (prepared, generation) { state with exchange } := by
  obtain ⟨calls, rest⟩ := coherent.rest
  have retained := rest.publish_retains tracked.retains prepared inside
  obtain ⟨-, same, -⟩ := rest.publish prepared generation
  rw [published] at retained same
  refine ⟨retained, fun current => ?_, tracked.requested, tracked.differs⟩
  have active : exchange.activeGeneration = state.exchange.activeGeneration :=
    congrArg ConsumerView.activeGeneration same
  have behind := tracked.retains.active_le
  change generation = exchange.activeGeneration at current
  rw [← active, ← current] at behind
  exact absurd newer (Nat.not_lt.mpr behind)

end Tracked

/-- What a host does with an active component: edits from its controller, calls of the
audio thread, and starts and stops. -/
inductive SessionCall
  | setParamNormalized (id : ParameterId) (normalized : Option ℚ)
  | process (data : ProcessData)
  | setProcessing (state : Bool)

/-- A value that the controller edited, or that the audio thread was delivered. A host delivers
what its controller has edited, at a time of its own. -/
inductive ParameterNews
  | edited (write : ParameterId × ℚ)
  | delivered (write : ParameterId × ℚ)
  deriving DecidableEq

/-- What the main thread was told. -/
def ParameterNews.edit : ParameterNews → Option (ParameterId × ℚ)
  | edited write => some write
  | delivered _ => none

/-- What a block delivered. -/
def ParameterNews.delivery : ParameterNews → Option (ParameterId × ℚ)
  | edited _ => none
  | delivered write => some write

/-- The edits of a log, in order. -/
def edits (log : List ParameterNews) : List (ParameterId × ℚ) := log.filterMap ParameterNews.edit

/-- All that the blocks have delivered, in their order. -/
def deliveries (log : List ParameterNews) : List (ParameterId × ℚ) :=
  log.filterMap ParameterNews.delivery

/-- Every parameter was delivered the values it was edited to, in order. -/
def SameChanges (log : List ParameterNews) : Prop :=
  ∀ id, (deliveries log).filter (·.1 = id) = (edits log).filter (·.1 = id)

namespace M3Component

/-- The value an edit writes. -/
def editWrites (id : ParameterId) (normalized : Option ℚ) : List (ParameterId × ℚ) :=
  (normalized.bind (plainValue id)).toList.map fun value => (id, value)

/-- The component after a call of the session. -/
def sessionStep (component : M3Component) : SessionCall → M3Component
  | .setParamNormalized id normalized => (component.setParamNormalized id normalized).2
  | .process data => (component.process data).2.component
  | .setProcessing state => (component.setProcessing state).2

/-- The writes that a call of the session carries. -/
def sessionNews (component : M3Component) : SessionCall → List ParameterNews
  | .setParamNormalized id normalized => (editWrites id normalized).map .edited
  | .process data => (component.blockWrites data).map .delivered
  | .setProcessing _ => []

/-- The component as a machine that emits what it is told about its parameters. -/
def sessionMachine : Transducer SessionCall M3Component ParameterNews where
  step component call := (component.sessionStep call, component.sessionNews call)

/-- Behind an open boundary, a block that changes the requested structure asks for
the same structure as if it had been applied to the pending configuration, and any
other block asks for no structure the pending configuration does not have. -/
def KeepsStructure (component : M3Component) (data : ProcessData) : Prop :=
  let requested := idFields.writeAll component.audioRequestedConfig (component.blockWrites data)
  let pending := idFields.writeAll component.pendingStructuralConfig (component.blockWrites data)
  component.structuralBoundaryPending = true →
    if structuralConfigEqual requested component.audioRequestedConfig then
      structuralConfigEqual pending component.pendingStructuralConfig = true
    else structuralConfigEqual pending requested = true

/-- The condition can be computed from the component and the block. -/
instance (component : M3Component) (data : ProcessData) :
    Decidable (component.KeepsStructure data) := by
  unfold KeepsStructure
  infer_instance

/-- A call of `setParamNormalized` returns success. -/
def EditSucceeds (component : M3Component) : SessionCall → Prop
  | .setParamNormalized id normalized => (component.setParamNormalized id normalized).1 = true
  | .process _ | .setProcessing _ => True

/-- The condition on a call: an edit succeeds and leaves the generations in the window
of the one the session began with, and a block keeps the structure that is pending. -/
def SessionFits (base : Generation) (component : M3Component) : SessionCall → Prop
  | .setParamNormalized id normalized =>
      (component.setParamNormalized id normalized).1 = true ∧
        distance base component.mainGeneration + 1 < 2 ^ 63
  | .process data => component.KeepsStructure data
  | .setProcessing _ => True

end M3Component

/-- A component in a session, against the log of what it was told since the start. The
configurations of both threads follow from that log, and the newest preparation from the edits. -/
structure InSession (start : M3Component) (log : List ParameterNews) (component : M3Component) :
    Prop where
  sound : Sound component
  active : component.active = true
  setup : component.setupComplete = true
  main : component.mainConfig = idFields.writeAll start.mainConfig (edits log)
  requested : ∃ config, Requested component.boundary config ∧
    structuralConfigEqual config (idFields.writeAll start.activeConfig (deliveries log)) = true
  window : InWindow start.mainGeneration component.mainGeneration
  latest : ∃ latest, Tracked start.mainGeneration latest component.boundary ∧
    structuralConfigEqual latest.1.requested component.mainConfig = true ∧
    some latest.1.sampleRate = component.processSetup.sampleRate ∧
    distance start.mainGeneration latest.2 ≤
      distance start.mainGeneration component.mainGeneration

namespace M3Component

variable {component start : M3Component} {log : List ParameterNews}

/-- An edit that succeeds asks for a panic, or publishes the main configuration with
its value written to it. -/
theorem setParamNormalized_edit {id : ParameterId} {normalized : Option ℚ}
    (succeeds : (component.setParamNormalized id normalized).1 = true) :
    (component.setParamNormalized id normalized = (true, { component with panicRequested := true }) ∧
        idFields.writeAll component.mainConfig (editWrites id normalized) = component.mainConfig) ∨
      ∃ published, component.publishMainConfig
          (idFields.writeAll component.mainConfig (editWrites id normalized)) = (true, published) ∧
        component.setParamNormalized id normalized =
          (true, { published with
            controllerConfig :=
              idFields.writeAll component.mainConfig (editWrites id normalized) }) := by
  rcases setParamNormalized_cases component id normalized with
    refused | ⟨rfl, panic⟩ | ⟨spec, plain, found, canonical, accepted, edited⟩
  · rw [refused] at succeeds
    exact absurd succeeds (by simp)
  · refine .inl ⟨panic, ?_⟩
    unfold editWrites
    cases normalized.bind (plainValue panicParameterId) <;> rfl
  · rcases applyParameter_cases component.mainConfig id (some plain) with
      rejected | ⟨other, value, foundOther, plainCanonical, -, wrote, -⟩
    · exact absurd (congrArg Prod.fst rejected) accepted
    · obtain rfl := Option.some.inj (found.symm.trans foundOther)
      have written : editWrites id normalized = [(id, value)] := by
        cases normalized with
        | none => exact absurd canonical (by simp [canonicalNormalizedValue])
        | some host =>
            unfold editWrites plainValue
            rw [Option.bind_some, found, Option.bind_some, canonical, Option.bind_some,
              plainCanonical]
            rfl
      have candidate : (applyParameter component.mainConfig id (some plain)).2 =
          idFields.writeAll component.mainConfig (editWrites id normalized) := by
        rw [wrote, written]
        rfl
      rw [candidate] at edited
      cases outcome : component.publishMainConfig
          (idFields.writeAll component.mainConfig (editWrites id normalized)) with
      | mk answer published =>
          rw [outcome] at edited
          cases answer with
          | false =>
              rw [edited] at succeeds
              exact absurd succeeds (by simp)
          | true => exact .inr ⟨published, rfl, edited⟩

end M3Component

namespace InSession

variable {component start : M3Component} {log : List ParameterNews}

/-- The edits of two logs are those of the first and then those of the second. -/
theorem edits_append (first second : List ParameterNews) :
    edits (first ++ second) = edits first ++ edits second := List.filterMap_append

theorem deliveries_append (first second : List ParameterNews) :
    deliveries (first ++ second) = deliveries first ++ deliveries second := List.filterMap_append

/-- Edited writes are edits only. -/
theorem edits_edited (writes : List (ParameterId × ℚ)) :
    edits (writes.map .edited) = writes ∧ deliveries (writes.map .edited) = [] := by
  induction writes with
  | nil => exact ⟨rfl, rfl⟩
  | cons write writes ih =>
      exact ⟨congrArg (write :: ·) ih.1, ih.2⟩

/-- Delivered writes are deliveries only. -/
theorem deliveries_delivered (writes : List (ParameterId × ℚ)) :
    deliveries (writes.map .delivered) = writes ∧ edits (writes.map .delivered) = [] := by
  induction writes with
  | nil => exact ⟨rfl, rfl⟩
  | cons write writes ih =>
      exact ⟨congrArg (write :: ·) ih.1, ih.2⟩

/-- The exchange, the requested and the running configuration after a publication. -/
theorem publish (session : InSession start log component) {config : PersistentConfig}
    (room : distance start.mainGeneration component.mainGeneration + 1 < 2 ^ 63)
    {exchange : PreparedConfigExchange PreparedConfig} (offers : component.Offers config exchange) :
    (∀ requested, Requested component.boundary requested →
        Requested { component.boundary with exchange } requested) ∧
      ∃ latest, Tracked start.mainGeneration latest { component.boundary with exchange } ∧
        structuralConfigEqual latest.1.requested config = true ∧
        some latest.1.sampleRate = component.processSetup.sampleRate ∧
        distance start.mainGeneration latest.2 ≤
          distance start.mainGeneration (component.mainGeneration + 1) := by
  obtain ⟨latest, tracked, structured, rated, behind⟩ := session.latest
  obtain ⟨asked, fits, -⟩ := session.requested
  have next := distance_add_one (room.trans (by decide))
  unfold M3Component.Offers at offers
  by_cases structural : structuralConfigEqual component.mainConfig config = false ∧
      component.active = true ∧ component.preparedExchangeInitialized = true
  · rw [if_pos structural] at offers
    obtain ⟨prepared, staged, published⟩ := offers
    have inside : InWindow start.mainGeneration (component.mainGeneration + 1) := by
      unfold InWindow
      omega
    refine ⟨fun requested fits => ?_, (prepared, component.mainGeneration + 1),
      tracked.publish fits.toCoherent inside (by omega) published, ?_, ?_, le_rfl⟩
    · have kept := M3Component.publishPrepared_fits fits prepared (component.mainGeneration + 1)
      change Requested { component.boundary with
        exchange := (component.preparedExchange.publish prepared
          (component.mainGeneration + 1)).2 } requested at kept
      rwa [published] at kept
    · rw [stagePreparedConfig_requested (staged session.setup)]
      exact structuralConfigEqual_refl config
    · exact (stagePreparedConfig_sampleRate (staged session.setup)).symm
  · rw [if_neg structural] at offers
    subst offers
    have same : structuralConfigEqual component.mainConfig config = true := by
      by_contra differs
      exact structural ⟨by simpa using differs, session.active, fits.exchangeInitialized⟩
    exact ⟨fun _ => id, latest, tracked, structuralConfigEqual_trans structured same, rated,
      by omega⟩

/-- An edit that succeeds is written to the main configuration, and offered when it
changes the structure. -/
theorem edit (session : InSession start log component) {id : ParameterId} {normalized : Option ℚ}
    (fits : component.SessionFits start.mainGeneration (.setParamNormalized id normalized)) :
    InSession start (log ++ (M3Component.editWrites id normalized).map .edited)
      (component.setParamNormalized id normalized).2 := by
  obtain ⟨succeeds, room⟩ := fits
  have edited : edits (log ++ (M3Component.editWrites id normalized).map .edited) =
      edits log ++ M3Component.editWrites id normalized := by
    rw [edits_append, (edits_edited _).1]
  have delivered : deliveries (log ++ (M3Component.editWrites id normalized).map .edited) =
      deliveries log := by
    rw [deliveries_append, (edits_edited _).2, List.append_nil]
  have main : idFields.writeAll component.mainConfig (M3Component.editWrites id normalized) =
      idFields.writeAll start.mainConfig
        (edits (log ++ (M3Component.editWrites id normalized).map .edited)) := by
    rw [edited, idFields.writeAll_append, session.main]
  rcases M3Component.setParamNormalized_edit succeeds with
    ⟨panic, same⟩ | ⟨published, publishes, result⟩
  · rw [panic]
    exact ⟨⟨session.sound.waits, session.sound.notes⟩, session.active, session.setup,
      same.symm.trans main, delivered ▸ session.requested, session.window, session.latest⟩
  · rw [result]
    generalize idFields.writeAll component.mainConfig (M3Component.editWrites id normalized) = config
      at main publishes ⊢
    rcases M3Component.publishMainConfig_cases component config with
      ⟨same, settled⟩ | ⟨exchange, failed⟩ | ⟨exchange, prepared, generation, valid, offers, outcome⟩
    · obtain rfl := congrArg Prod.snd (settled.symm.trans publishes)
      have unchanged := samePersistentConfig_iff.mp same
      exact ⟨⟨session.sound.waits, session.sound.notes⟩, session.active, session.setup, main,
        delivered ▸ session.requested, session.window, unchanged ▸ session.latest⟩
    · exact absurd (congrArg Prod.fst (failed.symm.trans publishes)) (by simp)
    · obtain rfl := congrArg Prod.snd (outcome.symm.trans publishes)
      obtain ⟨kept, latest⟩ := session.publish room offers
      obtain ⟨asked, requested, structured⟩ := session.requested
      have window : InWindow start.mainGeneration (component.mainGeneration + 1) := by
        unfold InWindow
        rw [distance_add_one (room.trans (by decide))]
        exact room
      exact ⟨⟨session.sound.waits, session.sound.notes⟩, session.active, session.setup, main,
        ⟨asked, kept asked requested, delivered ▸ structured⟩, window, latest⟩

/-- Applying a block's changes keeps the structure of what is requested. -/
theorem applyBatch (session : InSession start log component) {data : ProcessData}
    {batch : ParameterBatch} (read : component.readBatch data = some batch)
    (keeps : component.KeepsStructure data) :
    ∃ config, Requested (component.applyBatch batch).boundary config ∧
      structuralConfigEqual config (idFields.writeAll
        (idFields.writeAll start.activeConfig (deliveries log)) (component.blockWrites data)) =
        true := by
  obtain ⟨asked, fits, structured⟩ := session.requested
  have written := structuralConfigEqual_writeAll structured (component.blockWrites data)
  cases pending : component.structuralBoundaryPending with
  | false => exact ⟨_, M3Component.applyBatch_settled fits pending read, written⟩
  | true =>
      have waits : component.pendingStructuralConfig = asked := fits.waiting pending
      have meaning := keeps pending
      rw [waits] at meaning
      refine ⟨_, M3Component.applyBatch_waiting fits pending batch, ?_⟩
      by_cases structural : batch.changed = true ∧ batch.structural = true
      · rw [(M3Component.readBatch_structural read).mp structural, if_neg (by simp)] at meaning
        rw [if_pos structural, (M3Component.readBatch_spec read).1]
        exact structuralConfigEqual_trans (structuralConfigEqual_symm meaning) written
      · have same := mt (M3Component.readBatch_structural read).mpr structural
        rw [Bool.not_eq_false] at same
        rw [same, if_pos rfl] at meaning
        rw [if_neg structural]
        exact structuralConfigEqual_trans (structuralConfigEqual_symm meaning) written

/-- A call that leaves the main thread's side alone and keeps track of the boundary. -/
theorem keepSide (session : InSession start log component) {next : M3Component}
    {news : List ParameterNews} (side : next.mainSide = component.mainSide) (sound : Sound next)
    (unedited : edits news = [])
    (requested : ∃ config, Requested next.boundary config ∧
      structuralConfigEqual config
        (idFields.writeAll start.activeConfig (deliveries (log ++ news))) = true)
    (tracks : ∀ latest, Tracked start.mainGeneration latest component.boundary →
      Tracked start.mainGeneration latest next.boundary) :
    InSession start (log ++ news) next := by
  obtain ⟨main, generation, setup, active, complete⟩ := M3Component.main_of_mainSide side
  obtain ⟨latest, tracked, newest, rated, behind⟩ := session.latest
  have edited : edits (log ++ news) = edits log := by
    rw [edits_append, unedited, List.append_nil]
  refine ⟨sound, active.trans session.active, complete.trans session.setup, ?_, requested, ?_,
    latest, tracks latest tracked, ?_, ?_, ?_⟩
  · rw [main, edited, session.main]
  · rw [generation]
    exact session.window
  · rwa [main]
  · rwa [setup]
  · rwa [generation]

/-- A block that keeps the pending structure writes its values to what is requested. -/
theorem process (session : InSession start log component) {data : ProcessData}
    (keeps : component.KeepsStructure data) :
    InSession start (log ++ (component.blockWrites data).map .delivered)
      (component.process data).2.component := by
  obtain ⟨asked, fits, structured⟩ := session.requested
  have coherent (batch : ParameterBatch) (read : component.readBatch data = some batch) :
      Coherent (component.applyBatch batch).boundary := by
    obtain ⟨config, applied, -⟩ := session.applyBatch read keeps
    exact applied.toCoherent
  refine session.keepSide (M3Component.mainSide_process component data)
    (session.sound.process data) (deliveries_delivered _).2 ?_
    (fun latest tracked => tracked.process fits.toCoherent coherent)
  rw [deliveries_append, (deliveries_delivered _).1, idFields.writeAll_append]
  cases read : component.readBatch data with
  | none =>
      rw [M3Component.boundary_process_refused read, M3Component.blockWrites_refused read]
      exact ⟨asked, fits, structured⟩
  | some batch =>
      obtain ⟨config, applied, written⟩ := session.applyBatch read keeps
      refine ⟨config, ?_, written⟩
      rw [← M3Component.boundary_applyBoundary] at applied
      rcases M3Component.boundary_process read with same | ⟨retried, same, committed⟩
      · rwa [same]
      · rw [← same] at applied
        rw [committed]
        exact applied.commitPreparedConfigIfReleased

/-- A call that fits keeps the component in its session, with the log grown by what the call tells.
-/
theorem step (session : InSession start log component) {call : SessionCall}
    (fits : component.SessionFits start.mainGeneration call) :
    InSession start (log ++ component.sessionNews call) (component.sessionStep call) := by
  cases call with
  | setParamNormalized id normalized => exact session.edit fits
  | process data => exact session.process fits
  | setProcessing state =>
      have same := M3Component.core_setProcessing component state
      have boundary : (component.setProcessing state).2.boundary = component.boundary :=
        M3Component.boundary_of_core same
      change InSession start (log ++ []) (component.setProcessing state).2
      refine session.keepSide (M3Component.mainSide_of_outer (M3Component.outer_of_core same))
        (session.sound.setProcessing state) rfl ?_ (fun latest tracked => boundary ▸ tracked)
      rw [boundary, List.append_nil]
      exact session.requested

/-- What was edited and delivered alike has one structure. -/
theorem same_structure (session : InSession start log component) (same : SameChanges log)
    (began : structuralConfigEqual start.activeConfig start.mainConfig = true) :
    structuralConfigEqual (idFields.writeAll start.activeConfig (deliveries log))
      component.mainConfig = true := by
  have last (id : ParameterId) : lastWrite id (deliveries log) = lastWrite id (edits log) := by
    rw [← lastWrite_filter, same id, lastWrite_filter]
  rw [session.main, idFields.writeAll_congr last]
  exact structuralConfigEqual_writeAll began _

end InSession

namespace Tracked

variable {base : Generation} {latest : PreparedConfig × Generation} {component : M3Component}

/-- While a boundary waits for the newest preparation, that is newer than the active
one. -/
theorem newer (tracked : Tracked base latest component.boundary)
    (pending : component.structuralBoundaryPending = true)
    (waits : structuralConfigEqual latest.1.requested component.pendingStructuralConfig = true) :
    generationNewer latest.2 component.preparedExchange.activeGeneration = true := by
  have behind := tracked.retains.active_le
  change distance base component.preparedExchange.activeGeneration ≤ _ at behind
  have differs : latest.2 ≠ component.preparedExchange.activeGeneration := by
    intro current
    have runs := structuralConfigEqual_trans (structuralConfigEqual_symm waits)
      (tracked.running current)
    exact absurd (runs.symm.trans (tracked.differs pending)) (by simp)
  rw [ExchangeProgram.generationNewer_iff tracked.retains.publisher_window
    (tracked.retains.window_of_le behind)]
  refine lt_of_le_of_ne behind fun same => differs (distance_inj same).symm

/-- The newest preparation is claimed when the boundary waits for it. -/
theorem claimMatchingPreparedConfig (tracked : Tracked base latest component.boundary)
    (coherent : Coherent component.boundary) (pending : component.structuralBoundaryPending = true)
    (without : component.preparedClaimPending = false)
    (waits : structuralConfigEqual latest.1.requested component.pendingStructuralConfig = true)
    (rated : some latest.1.sampleRate = component.processSetup.sampleRate) :
    component.claimMatchingPreparedConfig.preparedClaimPending = true ∧
      component.claimMatchingPreparedConfig.generatedNotes = component.generatedNotes := by
  obtain ⟨calls, rest⟩ := coherent.rest
  obtain ⟨claim, answer, claimed, contents⟩ := rest.claimLatest_newest
    (coherent.unclaimed without) tracked.retains (tracked.newer pending waits)
  change component.preparedExchange.claimLatest.1 = true at answer
  change component.preparedExchange.claimLatest.2.claim = some claim at claimed
  change (component.preparedExchange.claimLatest.2.slots claim.index).prepared = latest.1
    at contents
  have initialized : component.preparedExchangeInitialized = true := coherent.exchangeInitialized
  have matching : M3Component.claimMatches
      { component with preparedExchange := component.preparedExchange.claimLatest.2 } = true := by
    unfold M3Component.claimMatches
    dsimp only
    rw [claimed]
    dsimp only
    rw [contents, decide_eq_true rated, waits]
    rfl
  unfold M3Component.claimMatchingPreparedConfig
  rw [if_neg (by simp [pending, without, initialized])]
  dsimp only
  rw [if_neg (by simp [answer]), if_pos matching]
  exact ⟨rfl, rfl⟩

/-- With nothing left to release, a commit closes a boundary that waits for the newest
preparation. -/
theorem commit_closes (tracked : Tracked base latest component.boundary)
    (coherent : Coherent component.boundary)
    (released : component.generatedNotes.releasePending = false)
    (waits : component.structuralBoundaryPending = true →
      structuralConfigEqual latest.1.requested component.pendingStructuralConfig = true)
    (rated : some latest.1.sampleRate = component.processSetup.sampleRate) :
    component.commitPreparedConfigIfReleased.structuralBoundaryPending = false := by
  unfold M3Component.commitPreparedConfigIfReleased
  by_cases settled : component.structuralBoundaryPending = false
  · rw [if_pos settled]
    exact settled
  · rw [if_neg settled]
    rw [Bool.not_eq_false] at settled
    have claims : (if component.preparedClaimPending = true then component
        else component.claimMatchingPreparedConfig).preparedClaimPending = true ∧
        (if component.preparedClaimPending = true then component
          else component.claimMatchingPreparedConfig).generatedNotes = component.generatedNotes ∧
        Coherent (if component.preparedClaimPending = true then component
          else component.claimMatchingPreparedConfig).boundary := by
      split_ifs with claimed
      · exact ⟨claimed, rfl, coherent⟩
      · obtain ⟨found, notes⟩ := tracked.claimMatchingPreparedConfig coherent settled
          (by simpa using claimed) (waits settled) rated
        exact ⟨found, notes, coherent.claimMatchingPreparedConfig.coherent⟩
    dsimp only
    generalize (if component.preparedClaimPending = true then component
      else component.claimMatchingPreparedConfig) = next at claims ⊢
    obtain ⟨claimed, notes, fits⟩ := claims
    rw [if_neg (by simp [claimed, notes, released])]
    obtain ⟨claim, held⟩ := Option.isSome_iff_exists.mp (fits.claimPending.symm.trans claimed)
    change next.preparedExchange.claim = some claim at held
    rw [held]
    exact congrArg BoundaryState.pending (fits.adoptPreparedConfig held).same

end Tracked

namespace M3Component

variable {before start : M3Component} {granted : Bool}

/-- The preparation of an activation is the requested configuration, at the rate of
the setup. -/
theorem preparationFor_spec {component : M3Component} {prepared : PreparedConfig}
    (found : component.preparationFor = some prepared) :
    prepared.requested = component.configRequest.config ∧
      some prepared.sampleRate = component.processSetup.sampleRate := by
  unfold preparationFor at found
  dsimp only at found
  split_ifs at found with stale
  · exact ⟨stagePreparedConfig_requested found, (stagePreparedConfig_sampleRate found).symm⟩
  · obtain rfl := Option.some.inj found
    simp only [not_or, not_not, Bool.not_eq_false] at stale
    exact ⟨samePersistentConfig_iff.mp stale.2.2.2, stale.2.2.1⟩

/-- A session begins with one configuration on both sides, and its preparation on the
exchange. -/
theorem activate_session (sound : Sound before)
    (activated : before.activate granted = (true, start)) :
    InSession start [] start ∧ structuralConfigEqual start.activeConfig start.mainConfig = true := by
  have fits := activate_fits activated
  have kept := sound.activate granted
  rw [activated] at kept
  obtain ⟨may, prepared, ledger, preparation, storage, begun⟩ := activate_cases activated
  obtain ⟨requested, rated⟩ := preparationFor_spec preparation
  have boundary := boundary_startActive before prepared ledger
    (copyRuntimeConfig prepared.requested before.configRequest.config)
  rw [← begun] at boundary
  have exchange : start.preparedExchange = before.preparedExchange.initializeExchange prepared
      before.configRequest.generation := congrArg BoundaryState.exchange boundary
  have active : start.activeConfig =
      copyRuntimeConfig prepared.requested before.configRequest.config :=
    congrArg BoundaryState.activeConfig boundary
  have asked : start.audioRequestedConfig = start.activeConfig :=
    (congrArg BoundaryState.requestedConfig boundary).trans active.symm
  have settled : start.structuralBoundaryPending = false := congrArg BoundaryState.pending boundary
  obtain ⟨running, complete, main, generation, setup⟩ : start.active = true ∧
      start.setupComplete = true ∧ start.mainConfig = before.configRequest.config ∧
      start.mainGeneration = before.configRequest.generation ∧
      start.processSetup = before.processSetup := by
    rw [begun, activating_eq]
    exact ⟨rfl, may.2.1, rfl, rfl, rfl⟩
  have structured : structuralConfigEqual start.activeConfig start.mainConfig = true := by
    rw [active, main, requested]
    exact structuralConfigEqual_copyRuntime _ _
  refine ⟨⟨kept, running, complete, rfl, ⟨_, fits, structuralConfigEqual_refl _⟩, ?_,
    (prepared, before.configRequest.generation), ?_, ?_, ?_, ?_⟩, structured⟩
  · unfold InWindow
    rw [distance_self]
    decide
  · refine ⟨?_, fun _ => ?_, ?_, fun pending => ?_⟩
    · change Retains start.mainGeneration _ start.preparedExchange .idle
      rw [exchange, generation]
      exact ExchangeSystem.retains_initializeExchange _ _ _
    · change structuralConfigEqual prepared.requested start.activeConfig = true
      rw [active]
      exact structuralConfigEqual_symm (structuralConfigEqual_copyRuntime _ _)
    · change structuralConfigEqual start.audioRequestedConfig start.activeConfig = true
      rw [asked]
      exact structuralConfigEqual_refl _
    · exact absurd (settled.symm.trans pending) (by simp)
  · rw [main, requested]
    exact structuralConfigEqual_refl _
  · rw [setup]
    exact rated
  · rw [generation]

/-- After its retry, a call whose host takes every event has nothing left to release. -/
theorem retry_releases {processing : Processing} (sound : Sound processing.component)
    {host : List Push → VoiceTransition → Nat → Bool}
    (takes : ∀ pushed transition channel, host pushed transition channel = true) :
    (processing.retryPendingReleases (some host)).component.generatedNotes.releasePending = false := by
  have retried : (processing.delivery.retryPendingReleases (vst3EventSink (some host))).1 = true ∧
      (processing.delivery.retryPendingReleases
        (vst3EventSink (some host))).2.ledger.releasePending = false :=
    Delivery.retryPendingReleases_released sound.notes (fun _ _ midi => midi.1)
      (vst3EventSink_releases takes)
  obtain ⟨accepted, released⟩ := retried
  unfold Processing.retryPendingReleases
  dsimp only
  rw [if_neg (by simp [accepted])]
  split_ifs <;> exact released

/-- In a session, an accepted block of samples whose host takes every event closes the
boundary once edits and deliveries agree. -/
theorem process_closes {component : M3Component} {log : List ParameterNews}
    (session : InSession start log component)
    (began : structuralConfigEqual start.activeConfig start.mainConfig = true)
    {data : ProcessData} (keeps : component.KeepsStructure data)
    (same : SameChanges (log ++ (component.blockWrites data).map .delivered))
    {host : List Push → VoiceTransition → Nat → Bool} (events : data.outputEvents = some host)
    (takes : ∀ pushed transition channel, host pushed transition channel = true)
    (samples : data.numSamples ≠ 0) (layout : data.audio.isSome = true)
    (accepted : (component.process data).1 = true) :
    (component.process data).2.component.structuralBoundaryPending = false := by
  have ended := session.process keeps
  have structured := ended.same_structure same began
  obtain ⟨batch, read⟩ := Option.isSome_iff_exists.mp
    ((process_answer component data).symm.trans accepted)
  obtain ⟨audio, found⟩ := Option.isSome_iff_exists.mp layout
  obtain ⟨config, applied, written⟩ := session.applyBatch read keeps
  obtain ⟨latest, tracked, newest, rated, -⟩ := session.latest
  obtain ⟨asked, fits, -⟩ := session.requested
  have tracks := tracked.applyBatch fits.toCoherent read
  have main := (main_of_mainSide (mainSide_process component data)).1
  have side := mainSide_applyBoundary component batch
  rw [← boundary_applyBoundary] at applied tracks
  have bounded := session.sound.applyBoundary batch
  have result : (component.process data).2.component =
      (Processing.processAudio { component := component.applyBoundary batch } data audio).component := by
    unfold M3Component.process
    rw [read]
    dsimp only
    rw [if_neg samples]
    unfold Processing.processSamples
    rw [found]
  rw [result]
  have closing := congrArg structuralBoundaryPending (Processing.core_processAudio
    { component := component.applyBoundary batch } data audio)
  refine closing.trans ?_
  have retried := Processing.core_retryPendingReleases
    { component := component.applyBoundary batch } data.outputEvents
  have released : (Processing.retryPendingReleases { component := component.applyBoundary batch }
      data.outputEvents).component.generatedNotes.releasePending = false :=
    events ▸ retry_releases bounded takes
  generalize (Processing.retryPendingReleases { component := component.applyBoundary batch }
    data.outputEvents).component = next at retried released ⊢
  have boundary := boundary_of_core retried
  have setup : next.processSetup = component.processSetup :=
    (main_of_mainSide ((mainSide_of_outer (outer_of_core retried)).trans side)).2.2.1
  rw [← boundary] at applied tracks
  refine tracks.commit_closes applied.toCoherent released (fun pending => ?_)
    (rated.trans (congrArg ProcessSetup.sampleRate setup).symm)
  have waits : next.pendingStructuralConfig = config := applied.waiting pending
  rw [InSession.deliveries_append, (InSession.deliveries_delivered _).1,
    idFields.writeAll_append] at structured
  rw [waits, structuralConfigEqual_congr written, structuralConfigEqual_congr structured, main]
  exact newest

/-- **A reconfiguration ends.** In every session whose edits succeed and whose blocks
keep the pending structure: once every parameter has been delivered the values it was
edited to, an accepted block of samples whose host takes every event ends without an
open boundary, without reporting a reconfiguration, and running the structure of the
main configuration. -/
theorem run_reconfigured (image : List Byte) (calls : List HostCall) {granted : Bool}
    {start : M3Component}
    (activated : ((hostMachine (factoryCalibrationBank image)).run
      (M3Component.start (factoryCalibrationBank image)) calls).1.activate granted = (true, start))
    (session : List SessionCall) {data : ProcessData}
    (meets : sessionMachine.Meets (SessionFits start.mainGeneration) start
      (session ++ [.process data]))
    (same : SameChanges (sessionMachine.run start (session ++ [.process data])).2)
    {host : List Push → VoiceTransition → Nat → Bool} (events : data.outputEvents = some host)
    (takes : ∀ pushed transition channel, host pushed transition channel = true)
    (samples : data.numSamples ≠ 0) (layout : data.audio.isSome = true)
    (accepted : ((sessionMachine.run start session).1.process data).1 = true) :
    let final := (sessionMachine.run start (session ++ [.process data])).1
    final.structuralBoundaryPending = false ∧ final.status ≠ .reconfiguring ∧
      structuralConfigEqual final.activeConfig final.mainConfig = true := by
  obtain ⟨begun, structured⟩ := activate_session (Sound.run _ calls) activated
  have preserved (log : List ParameterNews) (component : M3Component) (call : SessionCall)
      (within : InSession start log component)
      (fits : component.SessionFits start.mainGeneration call) :
      InSession start (log ++ (sessionMachine.step component call).2)
        (sessionMachine.step component call).1 :=
    within.step fits
  have run := sessionMachine.run_invariant_of_meets preserved begun
    (Transducer.Meets.of_append sessionMachine meets)
  rw [List.nil_append] at run
  have keeps : KeepsStructure _ data := meets.last
  have concat := sessionMachine.run_concat start session (.process data)
  rw [concat] at same ⊢
  have ended := run.process keeps
  have closed := process_closes run structured keeps same events takes samples layout accepted
  refine ⟨closed, fun reconfiguring => ?_, ?_⟩
  · exact absurd (closed.symm.trans (ended.sound.waits ended.active reconfiguring)) (by simp)
  · obtain ⟨config, fits, written⟩ := ended.requested
    obtain ⟨runs, -⟩ := fits.settled closed
    have agrees := structuralConfigEqual_trans written (ended.same_structure same structured)
    rw [← runs] at agrees
    exact agrees

/-- One edit of the lowest note, delivered in the block that closes its boundary. -/
theorem run_reconfigured_lowestNote :
    let start := ((setUp (factoryCalibrationBank []) smallSetup).activate true).2
    let delivery : ProcessData :=
      { quietBlock with inputParameterChanges := some (.single 0x4D330007 (16 / 84)) }
    let final := (sessionMachine.run start ([.setProcessing true,
      .setParamNormalized 0x4D330007 (some (16 / 84))] ++ [.process delivery])).1
    final.structuralBoundaryPending = false ∧ final.status ≠ .reconfiguring ∧
      structuralConfigEqual final.activeConfig final.mainConfig = true := by
  intro start delivery
  have activated : (setUp (factoryCalibrationBank []) smallSetup).activate true =
      (true, start) := Prod.ext (by decide +kernel) rfl
  refine run_reconfigured [] [.setupProcessing smallSetup] activated
    [.setProcessing true, .setParamNormalized 0x4D330007 (some (16 / 84))] ?_ ?_ rfl
    (fun _ _ _ => rfl) (by decide) rfl (by decide +kernel)
  · refine ⟨trivial, ⟨by decide +kernel, by decide +kernel⟩, ?_, trivial⟩
    change KeepsStructure _ _
    decide +kernel
  · have news : (sessionMachine.run start ([.setProcessing true,
        .setParamNormalized 0x4D330007 (some (16 / 84))] ++ [.process delivery])).2 =
        [.edited (0x4D330007, 40), .delivered (0x4D330007, 40)] := by decide +kernel
    rw [news]
    exact fun _ => rfl

/-- Two structural edits, delivered in two blocks: the boundary keeps waiting for the
first one, which is no longer the newest on the exchange. -/
theorem reconfiguration_stuck :
    ∃ (start : M3Component) (session : List SessionCall),
      (setUp (factoryCalibrationBank []) smallSetup).activate true = (true, start) ∧
        sessionMachine.Meets EditSucceeds start session ∧
        (sessionMachine.run start session).2 =
          [.edited (0x4D330007, 40), .edited (0x4D330008, 66), .delivered (0x4D330007, 40),
            .delivered (0x4D330008, 66)] ∧
        ((sessionMachine.run start session).1.process quietBlock).1 = true ∧
        ((sessionMachine.run start session).1.process
          quietBlock).2.component.structuralBoundaryPending = true ∧
        ((sessionMachine.run start session).1.process quietBlock).2.component.status =
          .reconfiguring := by
  refine ⟨((setUp (factoryCalibrationBank []) smallSetup).activate true).2,
    [.setProcessing true, .setParamNormalized 0x4D330007 (some (16 / 84)),
      .setParamNormalized 0x4D330008 (some (1 / 2)),
      .process (parameterBlock 0x4D330007 (16 / 84)),
      .process (parameterBlock 0x4D330008 (1 / 2))],
    Prod.ext (by decide +kernel) rfl, ?_, by decide +kernel, by decide +kernel, by decide +kernel,
    by decide +kernel⟩
  refine ⟨trivial, ?_, ?_, trivial, trivial, trivial⟩
  · change (M3Component.setParamNormalized _ _ _).1 = true
    decide +kernel
  · change (M3Component.setParamNormalized _ _ _).1 = true
    decide +kernel

end M3Component

end M3Midi
