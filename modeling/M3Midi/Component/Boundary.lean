import M3Midi.Component.Frame
import M3Midi.Parameter.Batch

/-! # The structural boundary

What the audio thread knows of its configurations: the one that runs, the one it
has been asked for, the one an open boundary waits for, and the claim it holds on
the exchange. Only the parameters of a block, the claim and the commit change any
of it; everything else a call does concerns the notes and the status.
-/

namespace M3Midi

open Foundation PreparedConfigExchange

/-- The fields of a component that decide about its configurations. They are all that a structural
change depends on. Notes and calibration are in the way of it at most. -/
structure BoundaryState where
  exchange : PreparedConfigExchange PreparedConfig
  exchangeInitialized : Bool
  claimPending : Bool
  pending : Bool
  pendingConfig : PersistentConfig
  activeConfig : PersistentConfig
  requestedConfig : PersistentConfig

namespace M3Component

/-- The part of the component that a structural boundary is about. -/
def boundary (component : M3Component) : BoundaryState where
  exchange := component.preparedExchange
  exchangeInitialized := component.preparedExchangeInitialized
  claimPending := component.preparedClaimPending
  pending := component.structuralBoundaryPending
  pendingConfig := component.pendingStructuralConfig
  activeConfig := component.activeConfig
  requestedConfig := component.audioRequestedConfig

/-- What agrees on the core agrees on the boundary. -/
theorem boundary_of_core {first second : M3Component} (same : first.core = second.core) :
    first.boundary = second.boundary :=
  show first.core.boundary = second.core.boundary from congrArg boundary same

section Frame

variable (component : M3Component)

@[simp] theorem boundary_raiseStatus (status : Status) :
    (component.raiseStatus status).boundary = component.boundary :=
  boundary_of_core (core_raiseStatus component status)

@[simp] theorem boundary_mapLedger (change : GeneratedNoteLedger → GeneratedNoteLedger) :
    (component.mapLedger change).boundary = component.boundary := rfl

@[simp] theorem boundary_applyCalibrationRestore :
    component.applyCalibrationRestore.boundary = component.boundary := by
  unfold applyCalibrationRestore
  split
  · rfl
  · split_ifs <;> rfl

@[simp] theorem boundary_applyBoundary (batch : ParameterBatch) :
    (component.applyBoundary batch).boundary = (component.applyBatch batch).boundary := by
  unfold applyBoundary applyPanic
  rw [boundary_applyCalibrationRestore]
  split_ifs <;> rfl

variable {component} {data : ProcessData}

/-- A refused block leaves the boundary as it is. -/
theorem boundary_process_refused (refused : component.readBatch data = none) :
    (component.process data).2.component.boundary = component.boundary := by
  unfold process
  rw [refused]
  exact boundary_of_core (core_refuseCall component)

/-- An accepted call leaves the boundary as its parameters do, or as a commit after
the releases does. -/
theorem boundary_process {batch : ParameterBatch} (read : component.readBatch data = some batch) :
    (component.process data).2.component.boundary = (component.applyBoundary batch).boundary ∨
      ∃ retried : M3Component, retried.boundary = (component.applyBoundary batch).boundary ∧
        (component.process data).2.component.boundary =
          retried.commitPreparedConfigIfReleased.boundary := by
  unfold process
  rw [read]
  dsimp only
  split_ifs
  · exact .inl (boundary_raiseStatus _ _)
  · exact .inl rfl
  · unfold Processing.processSamples
    cases data.audio with
    | none => exact .inl (boundary_of_core (Processing.core_processUnsupported _ data))
    | some audio =>
        exact .inr ⟨_, boundary_of_core (Processing.core_retryPendingReleases _ _),
          boundary_of_core (Processing.core_processAudio _ data audio)⟩

end Frame

end M3Component

/-- What the audio thread knows fits together: the exchange is at rest, and an
outstanding claim is one the boundary waits for. -/
structure Coherent (state : BoundaryState) : Prop where
  rest : ∃ calls, state.exchange.AtRest calls
  initialized : state.exchange.initialized = true
  exchangeInitialized : state.exchangeInitialized = true
  claimPending : state.claimPending = state.exchange.claim.isSome
  claimMatches : ∀ claim, state.exchange.claim = some claim →
    state.pending = true ∧
      structuralConfigEqual (state.exchange.slots claim.index).prepared.requested
        state.pendingConfig = true

/-- A turn of the claim: the audio thread claims or cancels, and nothing else. Such a turn changes
neither what runs nor what has been requested. -/
structure Turns (before after : BoundaryState) : Prop where
  keeps : ∃ calls, Keeps before.exchange after.exchange calls
  generation : after.exchange.activeGeneration = before.exchange.activeGeneration
  same : after =
    { before with exchange := after.exchange, claimPending := after.claimPending }
  coherent : Coherent after

/-- A boundary closes: the claimed preparation runs, with the configuration that the
boundary has waited for. -/
structure Adopts (before after : BoundaryState) (claim : Claim) : Prop where
  claimed : before.exchange.claim = some claim
  keeps : ∃ calls, Keeps before.exchange after.exchange calls
  generation : after.exchange.activeGeneration = claim.generation
  same : after =
    { before with
      exchange := after.exchange
      claimPending := false
      pending := false
      activeConfig := before.pendingConfig
      requestedConfig := before.pendingConfig }
  coherent : Coherent after

namespace Coherent

variable {component : M3Component} {state : BoundaryState}

/-- Where no claim is pending, the exchange has none. -/
theorem unclaimed (coherent : Coherent state) (without : state.claimPending = false) :
    state.exchange.claim = none := by
  have none_ : state.exchange.claim.isSome = false := coherent.claimPending.symm.trans without
  simpa using none_

/-- Without a claim, the boundary may wait for any configuration. -/
theorem await (coherent : Coherent state) (without : state.exchange.claim = none)
    (config : PersistentConfig) :
    Coherent { state with pending := true, pendingConfig := config } :=
  { coherent with
    claimMatches := fun claim claimed => absurd (claimed.symm.trans without) (by simp) }

/-- A turn that ends without a claim. -/
theorem turnsUnclaimed (coherent : Coherent state)
    {exchange : PreparedConfigExchange PreparedConfig} {calls : List (PreparedConfig × Generation)}
    (keeps : Keeps state.exchange exchange calls) (released : exchange.claim = none)
    (generation : exchange.activeGeneration = state.exchange.activeGeneration) :
    Turns state { state with exchange, claimPending := false } where
  keeps := ⟨calls, keeps⟩
  generation := generation
  same := rfl
  coherent :=
    { rest := ⟨calls, keeps.rest⟩
      initialized := keeps.initialized.trans coherent.initialized
      exchangeInitialized := coherent.exchangeInitialized
      claimPending := by
        dsimp only
        rw [released, Option.isSome_none]
      claimMatches := fun claim claimed => absurd (claimed.symm.trans released) (by simp) }

/-- Nothing happens. -/
theorem turns (coherent : Coherent state) : Turns state state where
  keeps := by
    obtain ⟨calls, rest⟩ := coherent.rest
    exact ⟨calls, rest, rfl, fun _ => rfl, fun _ _ => id⟩
  generation := rfl
  same := rfl
  coherent := coherent

/-- Giving up a claim. -/
theorem dropClaim (coherent : Coherent component.boundary) :
    Turns component.boundary component.dropClaim.boundary ∧
      component.dropClaim.preparedClaimPending = false := by
  unfold M3Component.dropClaim
  by_cases claimed : component.preparedClaimPending = true
  · rw [if_pos claimed]
    obtain ⟨calls, rest⟩ := coherent.rest
    obtain ⟨claim, held⟩ : ∃ claim, component.preparedExchange.claim = some claim :=
      Option.isSome_iff_exists.mp (coherent.claimPending.symm.trans claimed)
    obtain ⟨keeps, released, -, generation⟩ := rest.cancel coherent.initialized held
    exact ⟨coherent.turnsUnclaimed keeps released generation, rfl⟩
  · rw [if_neg claimed]
    exact ⟨coherent.turns, by simpa using claimed⟩

/-- Looking for the matching preparation is a turn, whether it is found or not. -/
theorem claimMatchingPreparedConfig (coherent : Coherent component.boundary) :
    Turns component.boundary component.claimMatchingPreparedConfig.boundary := by
  unfold M3Component.claimMatchingPreparedConfig
  by_cases skipped : component.structuralBoundaryPending = false ∨
      component.preparedClaimPending = true ∨ component.preparedExchangeInitialized = false
  · rw [if_pos skipped]
    exact coherent.turns
  · rw [if_neg skipped]
    simp only [not_or, Bool.not_eq_false, Bool.not_eq_true] at skipped
    obtain ⟨pending, without, -⟩ := skipped
    obtain ⟨calls, rest⟩ := coherent.rest
    obtain ⟨keeps, answer, -, generation⟩ := rest.claimLatest (coherent.unclaimed without)
    change component.preparedExchange.claimLatest.1 = _ at answer
    dsimp only
    by_cases missed : component.preparedExchange.claimLatest.1 = false
    · rw [if_pos missed, M3Component.boundary_raiseStatus]
      have turned := coherent.turnsUnclaimed keeps (by simpa using answer.symm.trans missed) generation
      rw [← without] at turned
      exact turned
    · rw [if_neg missed]
      rw [Bool.not_eq_false] at missed
      obtain ⟨claim, claimed⟩ := Option.isSome_iff_exists.mp (answer.symm.trans missed)
      change component.preparedExchange.claimLatest.2.claim = some claim at claimed
      by_cases found : M3Component.claimMatches
          { component with preparedExchange := component.preparedExchange.claimLatest.2 } = true
      · rw [if_pos found]
        refine ⟨⟨calls, keeps⟩, generation, rfl,
          { rest := ⟨calls, keeps.rest⟩
            initialized := keeps.initialized.trans coherent.initialized
            exchangeInitialized := coherent.exchangeInitialized
            claimPending := (answer.symm.trans missed).symm
            claimMatches := fun other held => ⟨pending, ?_⟩ }⟩
        unfold M3Component.claimMatches at found
        rw [claimed] at found
        obtain rfl := Option.some.inj (claimed.symm.trans held)
        exact (Bool.and_eq_true_iff.mp found).2
      · rw [if_neg found, M3Component.boundary_raiseStatus]
        obtain ⟨given, released, -, same⟩ := keeps.rest.cancel
          (keeps.initialized.trans coherent.initialized) claimed
        have turned := coherent.turnsUnclaimed (keeps.trans given) released (same.trans generation)
        rw [← without] at turned
        exact turned

/-- A structural change opens a boundary anew, unless that waits for it already. -/
theorem beginStructuralBoundary (coherent : Coherent component.boundary)
    (config : PersistentConfig) :
    (component.structuralBoundaryPending = true ∧ component.pendingStructuralConfig = config ∧
        component.beginStructuralBoundary config = component) ∨
      ∃ dropped, Turns component.boundary dropped ∧ dropped.exchange.claim = none ∧
        Turns { dropped with pending := true, pendingConfig := config }
          (component.beginStructuralBoundary config).boundary := by
  unfold M3Component.beginStructuralBoundary
  by_cases same : component.structuralBoundaryPending = true ∧
      samePersistentConfig component.pendingStructuralConfig config = true
  · exact .inl ⟨same.1, samePersistentConfig_iff.mp same.2, if_pos same⟩
  · rw [if_neg same]
    obtain ⟨turns, without⟩ := coherent.dropClaim
    have unclaimed := turns.coherent.unclaimed without
    have awaiting : Coherent (M3Component.boundary { component.dropClaim with
        pendingStructuralConfig := config
        structuralBoundaryPending := true
        releaseChannelPending := true
        generatedNotes := component.dropClaim.generatedNotes.requestReleaseAll }) :=
      turns.coherent.await unclaimed config
    exact .inr ⟨component.dropClaim.boundary, turns, unclaimed,
      awaiting.claimMatchingPreparedConfig⟩

/-- A committed claim closes the boundary. -/
theorem adoptPreparedConfig (coherent : Coherent component.boundary) {claim : Claim}
    (claimed : component.preparedExchange.claim = some claim) :
    Adopts component.boundary (component.adoptPreparedConfig claim).boundary claim := by
  obtain ⟨calls, rest⟩ := coherent.rest
  obtain ⟨committed, keeps, released, -, generation⟩ := rest.commit coherent.initialized claimed
  change component.preparedExchange.commit.1 = true at committed
  obtain ⟨pending, same⟩ := coherent.claimMatches claim claimed
  have adopted : copyRuntimeConfig
      (component.preparedExchange.slots claim.index).prepared.requested
      component.pendingStructuralConfig = component.pendingStructuralConfig :=
    copyRuntimeConfig_eq same
  have result : Adopts component.boundary
      { component.boundary with
        exchange := component.preparedExchange.commit.2
        claimPending := false
        pending := false
        activeConfig := component.pendingStructuralConfig
        requestedConfig := component.pendingStructuralConfig } claim :=
    { claimed := claimed
      keeps := ⟨calls, keeps⟩
      generation := generation
      same := rfl
      coherent :=
        { rest := ⟨calls, keeps.rest⟩
          initialized := keeps.initialized.trans coherent.initialized
          exchangeInitialized := coherent.exchangeInitialized
          claimPending := (congrArg Option.isSome released).symm
          claimMatches := fun other held => absurd (held.symm.trans released) (by simp) } }
  unfold M3Component.adoptPreparedConfig
  dsimp only
  rw [if_neg (by simp [committed]), adopted]
  split_ifs
  · exact result
  · exact result

/-- A commit takes a turn, and closes the boundary if there is a claim to adopt. -/
theorem commitPreparedConfigIfReleased (coherent : Coherent component.boundary) :
    Turns component.boundary component.commitPreparedConfigIfReleased.boundary ∨
      ∃ middle claim, Turns component.boundary middle ∧
        Adopts middle component.commitPreparedConfigIfReleased.boundary claim := by
  unfold M3Component.commitPreparedConfigIfReleased
  by_cases settled : component.structuralBoundaryPending = false
  · rw [if_pos settled]
    exact .inl coherent.turns
  · rw [if_neg settled]
    have turns : Turns component.boundary (if component.preparedClaimPending = true then component
        else component.claimMatchingPreparedConfig).boundary := by
      split_ifs
      · exact coherent.turns
      · exact coherent.claimMatchingPreparedConfig
    dsimp only
    generalize (if component.preparedClaimPending = true then component
      else component.claimMatchingPreparedConfig) = next at turns ⊢
    split_ifs
    · rw [M3Component.boundary_raiseStatus]
      exact .inl turns
    · cases held : next.preparedExchange.claim with
      | none => exact .inl turns
      | some claim => exact .inr ⟨next.boundary, claim, turns, turns.coherent.adoptPreparedConfig held⟩

end Coherent

/-- A component whose configurations fit together, for a configuration the accepted
changes ask for: it runs, or an open boundary waits for it. -/
structure Requested (state : BoundaryState) (requested : PersistentConfig) : Prop
    extends Coherent state where
  settled : state.pending = false →
    state.activeConfig = requested ∧ state.requestedConfig = requested
  waiting : state.pending = true → state.pendingConfig = requested

namespace Requested

variable {before after : BoundaryState} {requested : PersistentConfig}

/-- A step on the boundary that adopts nothing keeps what has been requested. -/
theorem turn (fits : Requested before requested) (turns : Turns before after) :
    Requested after requested where
  toCoherent := turns.coherent
  settled := by
    rw [turns.same]
    exact fits.settled
  waiting := by
    rw [turns.same]
    exact fits.waiting

/-- A configuration that is adopted is the one that has been requested. -/
theorem adopt (fits : Requested before requested) {claim : Claim}
    (adopts : Adopts before after claim) : Requested after requested where
  toCoherent := adopts.coherent
  settled := by
    have pending := (fits.claimMatches claim adopts.claimed).1
    rw [adopts.same]
    exact fun _ => ⟨fits.waiting pending, fits.waiting pending⟩
  waiting := by
    rw [adopts.same]
    exact fun contrary => absurd contrary (by simp)

variable {component : M3Component}

/-- A structural change is what the boundary waits for. -/
theorem beginStructuralBoundary (fits : Requested component.boundary requested)
    (config : PersistentConfig) :
    Requested (component.beginStructuralBoundary config).boundary config := by
  rcases fits.toCoherent.beginStructuralBoundary config with
    ⟨pending, rfl, same⟩ | ⟨dropped, turns, unclaimed, turned⟩
  · rw [same]
    exact ⟨fits.toCoherent, fun settled => absurd (pending.symm.trans settled) (by simp),
      fun _ => rfl⟩
  · have awaiting : Requested { dropped with pending := true, pendingConfig := config } config :=
      ⟨turns.coherent.await unclaimed config, fun contrary => absurd contrary (by simp),
        fun _ => rfl⟩
    exact awaiting.turn turned

/-- The commit runs what the boundary waits for, or leaves it waiting. -/
theorem commitPreparedConfigIfReleased (fits : Requested component.boundary requested) :
    Requested component.commitPreparedConfigIfReleased.boundary requested := by
  rcases fits.toCoherent.commitPreparedConfigIfReleased with
    turns | ⟨middle, claim, turns, adopts⟩
  · exact fits.turn turns
  · exact (fits.turn turns).adopt adopts

end Requested

end M3Midi
