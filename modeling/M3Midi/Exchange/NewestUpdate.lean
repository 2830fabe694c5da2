import M3Midi.Exchange.SoloRun

/-! # The newest update is never lost

With generations in one window, the newest successful publish is the active
configuration, or it lies in a ready or claimed slot, or the producer is about to
replace it by a newer one. Hence a consumer that rests while no call is under way
obtains exactly the newest publish, or has it already.
-/

namespace M3Midi

open Foundation Foundation.SerialNumber PreparedConfigExchange

variable {Payload : Type}

/-- The call the producer is working on. -/
def ProducerView.call : ProducerView Payload → Option (Payload × Generation)
  | .choosing call | .taken _ call | .written _ call | .tagged _ call => some call
  | .idle | .returned => none

/-- The latest successful publish is active, kept in a slot, or being replaced. While it is being
replaced, the publication that replaces it is newer. -/
structure Retains (base : Generation) (latest : Payload × Generation)
    (exchange : PreparedConfigExchange Payload) (producer : ProducerView Payload) : Prop where
  initialized : exchange.initialized = true
  publisher : exchange.publisherGeneration = latest.2
  publisher_window : InWindow base latest.2
  active_le : distance base exchange.activeGeneration ≤ distance base latest.2
  active_generation : ∀ index, (exchange.slots index).state = .active →
    (exchange.slots index).generation = exchange.activeGeneration
  bounded : ∀ index, (exchange.slots index).state = .ready ∨
      (exchange.slots index).state = .audioClaimed →
    distance base (exchange.slots index).generation ≤ distance base latest.2
  payload : ∀ index, (exchange.slots index).state = .ready ∨
      (exchange.slots index).state = .audioClaimed →
    (exchange.slots index).generation = latest.2 → (exchange.slots index).prepared = latest.1
  calling : ∀ call, producer.call = some call →
    InWindow base call.2 ∧ distance base latest.2 < distance base call.2
  kept : latest.2 = exchange.activeGeneration ∨ producer.slot.isSome ∨
    ∃ index, ((exchange.slots index).state = .ready ∨
      (exchange.slots index).state = .audioClaimed) ∧
      (exchange.slots index).generation = latest.2

namespace Retains

variable {base : Generation} {latest : Payload × Generation}
  {exchange : PreparedConfigExchange Payload} {calls : List (Payload × Generation)}
  {producer : ProducerView Payload} {consumer : ConsumerView}

/-- A generation no newer than the latest one lies within the window. -/
theorem window_of_le (retains : Retains base latest exchange producer) {generation : Generation}
    (within : distance base generation ≤ distance base latest.2) : InWindow base generation :=
  Nat.lt_of_le_of_lt within retains.publisher_window

/-- The slots of an exchange that retains its newest publish lie in one window. -/
theorem windowed (retains : Retains base latest exchange producer) : Windowed base exchange :=
  ⟨retains.window_of_le retains.active_le,
    fun index ready => retains.window_of_le (retains.bounded index (.inl ready))⟩

/-- A resting consumer that runs alone claims the newest publish while it is newer
than the active one. -/
theorem run_claimLatest (retains : Retains base latest exchange producer)
    (resting : Resting exchange) (unowned : producer.slot = none)
    (newer : generationNewer latest.2 exchange.activeGeneration = true) :
    ∃ claim, claim.generation = latest.2 ∧ (exchange.slots claim.index).prepared = latest.1 ∧
      (ExchangeProgram.claimLatest exchange).run apply exchange =
        (true, { exchange.setState claim.index .audioClaimed with claim := some claim }) := by
  obtain ⟨newest, inSlot, generation⟩ : ∃ index,
      ((exchange.slots index).state = .ready ∨ (exchange.slots index).state = .audioClaimed) ∧
        (exchange.slots index).generation = latest.2 := by
    rcases retains.kept with active | taken | inSlot
    · rw [active, generationNewer, not_newer_self] at newer
      exact absurd newer (by simp)
    · rw [unowned] at taken
      exact absurd taken (by simp)
    · exact inSlot
  have ready := inSlot.resolve_right (resting.unowned newest).2
  obtain ⟨index, indexReady, same, outcome⟩ :=
    ExchangeProgram.run_claimLatest_newest resting retains.windowed ready
      (by rw [generation]; exact newer)
      (fun other otherReady => by rw [generation]; exact retains.bounded other (.inl otherReady))
  rw [generation] at same outcome
  exact ⟨⟨index, latest.2⟩, rfl, retains.payload index (.inl indexReady) same, outcome⟩

/-- Taking a slot for a newer call leaves the update to that call. -/
theorem producer_take (retains : Retains base latest exchange producer)
    {call : Payload × Generation} (choosing : producer = .choosing call) (index : Fin slotCount) :
    Retains base latest (exchange.setState index .writing) (.taken index call) := by
  subst choosing
  obtain ⟨initialized, publisher, publisher_window, active_le, active_generation, bounded,
    payload, calling, kept⟩ := retains
  refine ⟨initialized, publisher, publisher_window, active_le, ?_, ?_, ?_, calling,
    .inr (.inl rfl)⟩
  · grind [setState_slots]
  · grind [setState_slots]
  · grind [setState_slots]

/-- Writing a taken slot concerns no other slot. -/
theorem producer_write (retains : Retains base latest exchange producer)
    (owned : Owned exchange calls producer consumer) {index : Fin slotCount}
    (next : ProducerView Payload) (change : PreparedSlot Payload → PreparedSlot Payload)
    (taken : producer.slot = some index) (kept : next.slot = some index)
    (same : ∀ slot, (change slot).state = slot.state) (call : next.call = producer.call) :
    Retains base latest (exchange.modifySlot index change) next := by
  have writing := (owned.writing index).mpr taken
  obtain ⟨initialized, publisher, publisher_window, active_le, active_generation, bounded,
    payload, calling, -⟩ := retains
  refine ⟨initialized, publisher, publisher_window, active_le, ?_, ?_, ?_,
    fun current found => calling current (call ▸ found), .inr (.inl (by rw [kept]; rfl))⟩
  · grind [modifySlot_slots]
  · grind [modifySlot_slots]
  · grind [modifySlot_slots]

/-- A finished call is the latest publish and lies in its ready slot. -/
theorem producer_publish (retains : Retains base latest exchange producer)
    (owned : Owned exchange calls producer consumer) {call : Payload × Generation}
    {index : Fin slotCount} (tagged : producer = .tagged index call) :
    Retains base call { exchange.setState index .ready with publisherGeneration := call.2 }
      .returned := by
  subst tagged
  have writing := (owned.writing index).mpr rfl
  obtain ⟨-, prepared, generation⟩ := owned.fills
  obtain ⟨initialized, publisher, publisher_window, active_le, active_generation, bounded,
    payload, calling, -⟩ := retains
  obtain ⟨inside, ahead⟩ := calling call rfl
  refine ⟨initialized, rfl, inside, active_le.trans ahead.le, ?_, ?_, ?_, by simp [ProducerView.call],
    .inr (.inr ⟨index, ?_⟩)⟩
  · grind [setState_slots]
  · intro other held
    rw [setState_slots] at held ⊢
    split_ifs at held ⊢ with same
    · exact (congrArg (distance base) generation).le
    · exact (bounded other held).trans ahead.le
  · intro other held current
    rw [setState_slots] at held current ⊢
    split_ifs at held current ⊢ with same
    · exact prepared
    · have within := bounded other held
      rw [current] at within
      exact absurd ahead (Nat.not_lt.mpr within)
  · simp [generation]

/-- A producer's action keeps the latest publish, or makes its call the latest. -/
theorem producer_step (retains : Retains base latest exchange producer)
    (owned : Owned exchange calls producer consumer) {action : ExchangeAction Payload}
    (allowed : producer.allows action) :
    (producer.advance action (exchange.apply action).1 ≠ .returned ∧
        Retains base latest (exchange.apply action).2
          (producer.advance action (exchange.apply action).1)) ∨
      ∃ call, calls.head? = some call ∧
        producer.advance action (exchange.apply action).1 = .returned ∧
        Retains base call (exchange.apply action).2 .returned := by
  cases producer with
  | idle => exact absurd allowed id
  | returned => exact absurd allowed id
  | choosing call =>
      cases action with
      | loadState index => exact .inl ⟨(fun same => by cases same), retains⟩
      | loadGeneration index => exact .inl ⟨(fun same => by cases same), retains⟩
      | claimState index expected desired =>
          obtain ⟨rfl, offered⟩ := allowed
          refine .inl ?_
          by_cases found : (exchange.slots index).state = expected
          · simp only [apply, if_pos found]
            exact ⟨(fun same => by cases same), retains.producer_take rfl index⟩
          · simp only [apply, if_neg found]
            exact ⟨(fun same => by cases same), retains⟩
      | _ => exact absurd allowed id
  | taken index call =>
      cases action with
      | writePrepared target prepared =>
          obtain ⟨rfl, rfl⟩ := allowed
          exact .inl ⟨(fun same => by cases same), retains.producer_write owned (.written target call)
            (fun slot => { slot with prepared := call.1 }) rfl rfl (fun _ => rfl) rfl⟩
      | _ => exact absurd allowed id
  | written index call =>
      cases action with
      | storeGeneration target generation =>
          obtain ⟨rfl, rfl⟩ := allowed
          exact .inl ⟨(fun same => by cases same), retains.producer_write owned (.tagged target call)
            (fun slot => { slot with generation := call.2 }) rfl rfl (fun _ => rfl) rfl⟩
      | _ => exact absurd allowed id
  | tagged index call =>
      cases action with
      | storePublished target generation =>
          obtain ⟨rfl, rfl⟩ := allowed
          exact .inr ⟨call, owned.fills.1, rfl, retains.producer_publish owned rfl⟩
      | _ => exact absurd allowed id

/-- Moving a slot between ready and claimed keeps every update. -/
theorem consumer_move (retains : Retains base latest exchange producer) {index : Fin slotCount}
    {state : PreparedSlotState}
    (held : (exchange.slots index).state = .ready ∨ (exchange.slots index).state = .audioClaimed)
    (moved : state = .ready ∨ state = .audioClaimed) :
    Retains base latest (exchange.setState index state) producer := by
  obtain ⟨initialized, publisher, publisher_window, active_le, active_generation, bounded,
    payload, calling, kept⟩ := retains
  refine ⟨initialized, publisher, publisher_window, active_le, ?_, ?_, ?_, calling, ?_⟩
  · grind [setState_slots]
  · grind [setState_slots]
  · grind [setState_slots]
  · rcases kept with current | taken | ⟨other, inSlot, generation⟩
    · exact .inl current
    · exact .inr (.inl taken)
    · refine .inr (.inr ⟨other, ?_, ?_⟩)
      · grind [setState_slots]
      · exact (setState_contents exchange index other state).2.trans generation

/-- Freeing a stale slot or the slot left by `commit` loses no update. -/
theorem consumer_free (retains : Retains base latest exchange producer) {index : Fin slotCount}
    (stale : ((exchange.slots index).state = .ready ∨
        (exchange.slots index).state = .audioClaimed) →
      generationNewer (exchange.slots index).generation exchange.activeGeneration = false) :
    Retains base latest (exchange.setState index .free) producer := by
  have window {generation : Generation} (within : distance base generation ≤
      distance base latest.2) : InWindow base generation := retains.window_of_le within
  obtain ⟨initialized, publisher, publisher_window, active_le, active_generation, bounded,
    payload, calling, kept⟩ := retains
  refine ⟨initialized, publisher, publisher_window, active_le, ?_, ?_, ?_, calling, ?_⟩
  · grind [setState_slots]
  · grind [setState_slots]
  · grind [setState_slots]
  · rcases kept with current | taken | ⟨other, inSlot, generation⟩
    · exact .inl current
    · exact .inr (.inl taken)
    · by_cases same : other = index
      · subst same
        refine .inl (distance_inj (Nat.le_antisymm ?_ active_le))
        have behind := stale inSlot
        rw [generation, ← Bool.not_eq_true, ExchangeProgram.generationNewer_iff
          publisher_window (window active_le), Nat.not_lt] at behind
        exact behind
      · refine .inr (.inr ⟨other, ?_, ?_⟩)
        · rwa [setState_slots, if_neg same]
        · exact (setState_contents exchange index other .free).2.trans generation

/-- Adopting a claim makes its generation the active one. -/
theorem consumer_adopt (retains : Retains base latest exchange producer)
    (owned : Owned exchange calls producer consumer) {claim : Claim}
    (swapping : consumer.hold = .swapping) (claimed : consumer.claim = some claim) :
    Retains base latest
      { exchange.setState claim.index .active with
        activeIndex := claim.index, activeGeneration := claim.generation, claim := none }
      producer := by
  have generation := (owned.claim_generation claim claimed).1
  have newer := (owned.claim_generation claim claimed).2
  rw [owned.mirrors.2.1] at newer
  have held : (exchange.slots claim.index).state = .audioClaimed := by
    rw [owned.claimed, ConsumerView.slot, swapping, claimed, Option.map_some]
  have inactive (index : Fin slotCount) : (exchange.slots index).state ≠ .active := by
    rw [Ne, owned.active, ConsumerView.activeSlot, if_pos swapping]
    simp
  have window {generation : Generation} (within : distance base generation ≤
      distance base latest.2) : InWindow base generation := retains.window_of_le within
  obtain ⟨initialized, publisher, publisher_window, active_le, active_generation, bounded,
    payload, calling, kept⟩ := retains
  have claim_le := bounded claim.index (.inr held)
  rw [generation] at claim_le
  refine ⟨initialized, publisher, publisher_window, claim_le, ?_, ?_, ?_, calling, ?_⟩
  · grind [setState_slots]
  · grind [setState_slots]
  · grind [setState_slots]
  · rcases kept with current | taken | ⟨other, inSlot, current⟩
    · have ahead := (ExchangeProgram.generationNewer_iff (window claim_le)
        (window active_le)).mp newer
      rw [← current] at ahead
      exact absurd ahead (Nat.not_lt.mpr claim_le)
    · exact .inr (.inl taken)
    · by_cases same : other = claim.index
      · subst same
        exact .inl (current.symm.trans generation)
      · refine .inr (.inr ⟨other, ?_, ?_⟩)
        · simpa [same] using inSlot
        · exact (setState_contents exchange claim.index other .active).2.trans current

/-- The consumer's actions keep the latest publish. -/
theorem consumer_step (retains : Retains base latest exchange producer)
    (owned : Owned exchange calls producer consumer) {action : ExchangeAction Payload}
    (allowed : consumer.allows action) :
    Retains base latest (exchange.apply action).2 producer := by
  have owner (index : Fin slotCount) (held : consumer.slot = some index) :
      (exchange.slots index).state = .audioClaimed := (owned.claimed index).mpr held
  cases action with
  | loadState index => exact retains
  | loadGeneration index => exact retains
  | claimState index expected desired =>
      obtain ⟨-, -, rfl, rfl⟩ := allowed
      by_cases found : (exchange.slots index).state = .ready
      · simp only [apply, if_pos found]
        exact retains.consumer_move (.inl found) (.inr rfl)
      · simp only [apply, if_neg found]
        exact retains
  | storeState index state =>
      cases state with
      | free =>
          refine retains.consumer_free fun held => ?_
          rcases allowed with ⟨generation, taken, stale⟩ | ⟨idle, rfl, -⟩
          · rw [owned.known_generation index generation taken, ← owned.mirrors.2.1]
            exact stale
          · have active : (exchange.slots consumer.activeIndex).state = .active := by
              rw [owned.active, ConsumerView.activeSlot, if_neg (by simp [idle])]
            simp [active] at held
      | ready =>
          obtain ⟨known, taken⟩ := allowed
          exact retains.consumer_move (.inr (owner index (by rw [ConsumerView.slot, taken])))
            (.inl rfl)
      | _ => exact absurd allowed id
  | fillClaim claim => exact ⟨retains.initialized, retains.publisher, retains.publisher_window,
      retains.active_le, retains.active_generation, retains.bounded, retains.payload,
      retains.calling, retains.kept⟩
  | storeActive claim => exact retains.consumer_adopt owned allowed.1 allowed.2
  | storeReturned index =>
      have moved := retains.consumer_move
        (.inr (owner index (by rw [ConsumerView.slot, allowed.1]; exact allowed.2))) (.inl rfl)
      exact ⟨moved.initialized, moved.publisher, moved.publisher_window, moved.active_le,
        moved.active_generation, moved.bounded, moved.payload, moved.calling, moved.kept⟩
  | _ => exact absurd allowed id

/-- A call with a newer generation of the window may start at any time. -/
theorem start_publish (retains : Retains base latest exchange producer) {result : Bool}
    (returned : producer.fits result) {call : Payload × Generation}
    (inside : InWindow base call.2) :
    Retains base latest exchange
      (if generationNewer call.2 exchange.publisherGeneration = true then .choosing call
        else .idle) := by
  have unowned : producer.slot = none := by
    cases producer <;> first | rfl | exact absurd returned id
  refine ⟨retains.initialized, retains.publisher, retains.publisher_window, retains.active_le,
    retains.active_generation, retains.bounded, retains.payload, ?_, ?_⟩
  · rw [retains.publisher]
    split_ifs with newer
    · rintro current ⟨⟩
      exact ⟨inside, (ExchangeProgram.generationNewer_iff inside
        retains.publisher_window).mp newer⟩
    · rintro current ⟨⟩
  · rcases retains.kept with current | taken | inSlot
    · exact .inl current
    · rw [unowned] at taken
      exact absurd taken (by simp)
    · exact .inr (.inr inSlot)

end Retains

/-- What may become of a ready or claimed slot in one step: it keeps its update,
its update becomes the active configuration, it is freed once it is no newer than
the active configuration, or the producer takes it for a newer call. -/
inductive UpdateStep (calls : List (Payload × Generation)) (before after : PreparedSlot Payload)
    (activeGeneration : Generation) : Prop
  | kept (state : after.state = .ready ∨ after.state = .audioClaimed)
      (prepared : after.prepared = before.prepared)
      (generation : after.generation = before.generation)
  | adopted (same : after = { before with state := .active })
      (active : activeGeneration = before.generation)
  | freed (same : after = { before with state := .free })
      (stale : generationNewer before.generation activeGeneration = false)
  | replaced (call : Payload × Generation) (same : after = { before with state := .writing })
      (current : calls.head? = some call)
      (newer : generationNewer call.2 before.generation = true)

section UpdateStep

variable {base : Generation} {latest : Payload × Generation}
  {exchange : PreparedConfigExchange Payload} {calls : List (Payload × Generation)}
  {producer : ProducerView Payload} {consumer : ConsumerView} {index : Fin slotCount}

/-- A step that leaves a slot alone keeps its update. -/
theorem UpdateStep.of_same {before after : PreparedSlot Payload} {activeGeneration : Generation}
    (held : before.state = .ready ∨ before.state = .audioClaimed) (same : after = before) :
    UpdateStep calls before after activeGeneration := by
  subst same
  exact .kept held rfl rfl

/-- A step of the producer keeps an update that is offered, or replaces it by a newer one. -/
theorem producer_updateStep (retains : Retains base latest exchange producer)
    (owned : Owned exchange calls producer consumer) {action : ExchangeAction Payload}
    (allowed : producer.allows action)
    (held : (exchange.slots index).state = .ready ∨
      (exchange.slots index).state = .audioClaimed) :
    UpdateStep calls (exchange.slots index) ((exchange.apply action).2.slots index)
      (exchange.apply action).2.activeGeneration := by
  have writing := owned.writing index
  have fills := owned.fills
  cases producer with
  | choosing call =>
      cases action with
      | claimState target expected desired =>
          obtain ⟨rfl, offered⟩ := allowed
          by_cases found : (exchange.slots target).state = expected
          · by_cases same : index = target
            · subst same
              obtain ⟨inside, ahead⟩ := retains.calling call rfl
              have within := retains.bounded index held
              refine .replaced call ?_ fills ?_
              · simp [apply, found]
              · rw [ExchangeProgram.generationNewer_iff inside (retains.window_of_le within)]
                exact within.trans_lt ahead
            · refine .of_same held ?_
              simp [apply, found, same]
          · refine .of_same held ?_
            simp [apply, found]
      | _ => first | exact .of_same held rfl | exact absurd allowed id
  | taken target call | written target call | tagged target call =>
      have elsewhere : index ≠ target := by grind [ProducerView.slot]
      cases action with
      | writePrepared | storeGeneration | storePublished =>
          first
          | exact absurd allowed id
          | obtain ⟨rfl, -⟩ := allowed
            exact .of_same held (Function.update_of_ne elsewhere _ _)
      | _ => exact absurd allowed id
  | _ => exact absurd allowed id

/-- A step of the consumer keeps it, or takes it. -/
theorem consumer_updateStep (owned : Owned exchange calls producer consumer)
    {action : ExchangeAction Payload} (allowed : consumer.allows action)
    (held : (exchange.slots index).state = .ready ∨
      (exchange.slots index).state = .audioClaimed) :
    UpdateStep calls (exchange.slots index) ((exchange.apply action).2.slots index)
      (exchange.apply action).2.activeGeneration := by
  have moved (target : Fin slotCount) (state : PreparedSlotState)
      (given : state = .ready ∨ state = .audioClaimed) (activeGeneration : Generation) :
      UpdateStep calls (exchange.slots index) ((exchange.setState target state).slots index)
        activeGeneration := by
    by_cases same : index = target
    · subst same
      refine .kept ?_ (setState_contents _ _ _ _).1 (setState_contents _ _ _ _).2
      simpa using given
    · exact .of_same held (by simp [same])
  cases action with
  | loadState | loadGeneration | fillClaim => exact .of_same held rfl
  | claimState target expected desired =>
      obtain ⟨-, -, rfl, rfl⟩ := allowed
      by_cases found : (exchange.slots target).state = .ready
      · simp only [apply, if_pos found]
        exact moved target _ (.inr rfl) _
      · simp only [apply, if_neg found]
        exact .of_same held rfl
  | storeState target state =>
      cases state with
      | ready => exact moved target _ (.inl rfl) _
      | free =>
          by_cases same : index = target
          · subst same
            rcases allowed with ⟨generation, taken, stale⟩ | ⟨idle, rfl, -⟩
            · refine .freed (by simp [apply]) ?_
              have known := owned.known_generation index generation taken
              rw [owned.mirrors.2.1] at stale
              simpa [apply, known] using stale
            · have active : (exchange.slots consumer.activeIndex).state = .active := by
                rw [owned.active, ConsumerView.activeSlot, if_neg (by simp [idle])]
              simp [active] at held
          · exact .of_same held (by simp [apply, same])
      | _ => exact absurd allowed id
  | storeActive claim =>
      by_cases same : index = claim.index
      · subst same
        exact .adopted (by simp [apply]) (owned.claim_generation claim allowed.2).1.symm
      · exact .of_same held (by simp [apply, same])
  | storeReturned target => exact moved target _ (.inl rfl) _
  | _ => exact absurd allowed id

end UpdateStep

namespace ExchangeSystem

variable {system : ExchangeSystem Payload} {base : Generation} {initial : Payload × Generation}
  {producer : ProducerView Payload} {consumer : ConsumerView}

/-- The payload and generation of the newest successful publish, or else those
the exchange started with. -/
def latest (system : ExchangeSystem Payload) (initial : Payload × Generation) :
    Payload × Generation :=
  system.published.headD initial

/-- A safe system that retains its newest publish. -/
def Current (base : Generation) (initial : Payload × Generation)
    (system : ExchangeSystem Payload) : Prop :=
  ∃ producer consumer, Safe system producer consumer ∧
    Retains base (system.latest initial) system.exchange producer

/-- The generation a publish call passes lies in the window. -/
def EventInWindow (base : Generation) : ExchangeEvent Payload → Prop
  | .publish _ generation => InWindow base generation
  | _ => True

/-- A program in a view that has not published has not returned true. -/
theorem recordPublished_eq {program : ExchangeProgram Payload Bool}
    (follows : ProducerView.protocol.Follows ProducerView.fits producer program)
    (unpublished : producer ≠ .returned) : system.recordPublished program = system.published := by
  cases program with
  | act action next => rfl
  | done result =>
      cases result with
      | false => rfl
      | true =>
          have fit : producer.fits true := follows
          cases producer <;> first | exact absurd rfl unpublished | simp [ProducerView.fits] at fit

/-- A program that has published has returned true. -/
theorem recordPublished_returned {program : ExchangeProgram Payload Bool}
    (follows : ProducerView.protocol.Follows ProducerView.fits .returned program) :
    system.recordPublished program = system.calls.take 1 ++ system.published := by
  cases program with
  | act action next => exact absurd follows.1 id
  | done result =>
      have fit : result = true := follows
      rw [fit]
      rfl

/-- A step of the producer keeps the exchange current. -/
theorem current_producerStep (safe : Safe system producer consumer)
    (retains : Retains base (system.latest initial) system.exchange producer) :
    Current base initial (system.step .producerStep) := by
  have follows := safe.producer_follows
  dsimp only [step]
  split
  · exact ⟨producer, consumer, safe, retains⟩
  · rename_i action next pending
    rw [pending] at follows
    obtain ⟨allowed, continues⟩ := follows
    have rest := continues (system.exchange.apply action).1
    refine ⟨_, consumer, ⟨rest, safe.consumer_follows, safe.owned.producer_step allowed⟩, ?_⟩
    unfold latest
    rcases retains.producer_step safe.owned allowed with
      ⟨unpublished, kept⟩ | ⟨call, current, returned, published⟩
    · rw [recordPublished_eq rest unpublished]
      exact kept
    · have finished : producer.advance action (system.exchange.apply action).1 = .returned :=
        returned
      change ProducerView.protocol.Follows _ (producer.advance action _) _ at rest
      rw [finished] at rest
      rw [recordPublished_returned rest, List.take_one, current]
      change Retains base call _ (producer.advance action _)
      rw [finished]
      exact published

/-- Every event of the window keeps the newest publish. -/
theorem current_step (current : Current base initial system) (event : ExchangeEvent Payload)
    (inside : EventInWindow base event) : Current base initial (system.step event) := by
  obtain ⟨producer, consumer, safe, retains⟩ := current
  have follows := safe.consumer_follows
  cases event with
  | producerStep => exact current_producerStep safe retains
  | publish prepared generation =>
      have producerFollows := safe.producer_follows
      dsimp only [step]
      split
      · rename_i result returned
        rw [returned] at producerFollows
        exact ⟨_, consumer,
          ⟨ExchangeProgram.publish_follows system.exchange (prepared, generation),
            safe.consumer_follows,
            safe.owned.start_publish producerFollows (prepared, generation)⟩,
          retains.start_publish producerFollows inside⟩
      · exact ⟨producer, consumer, safe, retains⟩
  | consumerStep =>
      dsimp only [step]
      split
      · exact ⟨producer, consumer, safe, retains⟩
      · rename_i action next pending
        rw [pending] at follows
        exact ⟨producer, _,
          ⟨safe.producer_follows, follows.2 _, safe.owned.consumer_step follows.1⟩,
          retains.consumer_step safe.owned follows.1⟩
  | claimLatest =>
      refine ⟨producer, consumer, safe_claimLatest safe, ?_⟩
      dsimp only [step]
      split <;> exact retains
  | commit =>
      refine ⟨producer, consumer, safe_commit safe, ?_⟩
      dsimp only [step]
      split <;> exact retains
  | cancel =>
      refine ⟨producer, consumer, safe_cancel safe, ?_⟩
      dsimp only [step]
      split <;> exact retains

/-- A freshly initialized exchange keeps its initial configuration. -/
theorem retains_initializeExchange (before : PreparedConfigExchange Payload) (initial : Payload)
    (generation : Generation) :
    Retains generation (initial, generation) (before.initializeExchange initial generation)
      .idle := by
  refine ⟨rfl, rfl, ?_, le_rfl, ?_, ?_, ?_, nofun, .inl rfl⟩
  · change distance generation generation < _
    rw [distance_self]
    decide
  all_goals
    intro index
    by_cases first : index = 0
    · subst first
      simp [initializeExchange]
    · simp [initializeExchange, reset, first]

/-- The exchange is current when it has been initialized. -/
theorem current_start (before : PreparedConfigExchange Payload) (initial : Payload)
    (generation : Generation) :
    Current generation (initial, generation) (start before initial generation) :=
  ⟨_, _, safe_start before initial generation,
    retains_initializeExchange before initial generation⟩

/-- Every system reached within the window keeps its newest publish. -/
theorem current_reach (before : PreparedConfigExchange Payload) (initial : Payload)
    (generation : Generation) {events : List (ExchangeEvent Payload)}
    (window : ∀ event ∈ events, EventInWindow generation event) :
    Current generation (initial, generation) (reach before initial generation events) := by
  have meets (system : ExchangeSystem Payload) :
      machine.Meets (fun _ event => EventInWindow generation event) system events := by
    induction events generalizing system with
    | nil => trivial
    | cons event events ih =>
        obtain ⟨head, tail⟩ := List.forall_mem_cons.mp window
        exact ⟨head, ih tail _⟩
  have preserved (system : ExchangeSystem Payload) (event : ExchangeEvent Payload)
      (current : Current generation (initial, generation) system)
      (inside : EventInWindow generation event) :
      Current generation (initial, generation) (machine.step system event).1 :=
    current_step current event inside
  exact machine.run_preserves_of_meets preserved (current_start before initial generation)
    (meets _)

/-- Neither party is inside a call, and no claim is outstanding. -/
def Quiescent (system : ExchangeSystem Payload) : Prop :=
  system.producer.IsDone ∧ system.consumer.IsDone ∧ system.exchange.claim = none

/-- In a quiescent system every slot is free, ready or the active one. The other states belong to
calls, and no call is under way. -/
theorem resting_of_quiescent (safe : Safe system producer consumer)
    (retains : Retains base (system.latest initial) system.exchange producer)
    (quiescent : Quiescent system) :
    Resting system.exchange ∧ producer.slot = none := by
  obtain ⟨producerDone, consumerDone, unclaimed⟩ := quiescent
  have unowned : producer.slot = none := by
    have follows := safe.producer_follows
    cases returned : system.producer with
    | act action next =>
        rw [returned] at producerDone
        exact absurd producerDone id
    | done result =>
        rw [returned] at follows
        have fit : producer.fits result := follows
        cases producer <;> first | rfl | exact absurd fit id
  have idle : consumer.hold = .nothing := by
    have follows := safe.consumer_follows
    cases returned : system.consumer with
    | act action next =>
        rw [returned] at consumerDone
        exact absurd consumerDone id
    | done result =>
        rw [returned] at follows
        exact follows
  refine ⟨⟨retains.initialized, unclaimed, fun index => ?_, fun index => ⟨?_, ?_⟩⟩, unowned⟩
  · rw [safe.owned.active, ConsumerView.activeSlot, if_neg (by simp [idle]),
      ← safe.owned.mirrors.1, Option.some.injEq, eq_comm]
  · rw [Ne, safe.owned.writing, unowned]
    simp
  · rw [Ne, safe.owned.claimed, ConsumerView.slot, idle]
    simp [safe.owned.mirrors.2.2, unclaimed]

/-- The newest successful publish, while it is newer than the active generation. -/
def pendingUpdate (system : ExchangeSystem Payload) : Option (Payload × Generation) :=
  system.published.head?.filter fun update =>
    generationNewer update.2 system.exchange.activeGeneration

/-- An update that is pending is the latest one, and newer than what runs. -/
theorem latest_of_pendingUpdate (initial : Payload × Generation) {update : Payload × Generation}
    (pending : system.pendingUpdate = some update) :
    system.latest initial = update ∧
      generationNewer update.2 system.exchange.activeGeneration = true := by
  obtain ⟨head, newer⟩ := Option.filter_eq_some_iff.mp pending
  refine ⟨?_, newer⟩
  rw [latest, List.headD_eq_head?_getD, head, Option.getD_some]

/-- Without a pending update the newest publish is no newer than the active one. -/
theorem latest_le_of_no_pendingUpdate
    (retains : Retains initial.2 (system.latest initial) system.exchange producer)
    (settled : system.pendingUpdate = none) :
    distance initial.2 (system.latest initial).2 ≤
      distance initial.2 system.exchange.activeGeneration := by
  cases published : system.published with
  | nil =>
      rw [latest, published, List.headD_nil, distance_self]
      exact Nat.zero_le _
  | cons update rest =>
      have head : system.latest initial = update := by rw [latest, published, List.headD_cons]
      have stale : ¬ generationNewer update.2 system.exchange.activeGeneration = true := by
        simpa [pendingUpdate, published] using settled
      rw [ExchangeProgram.generationNewer_iff (head ▸ retains.publisher_window)
        (retains.window_of_le retains.active_le), Nat.not_lt] at stale
      rwa [head]

/-- Running alone from a quiescent system, `claim_latest` claims the pending update. -/
theorem claimLatest_pending (current : Current initial.2 initial system)
    (quiescent : Quiescent system) {update : Payload × Generation}
    (pending : system.pendingUpdate = some update) :
    ∃ claim, claim.generation = update.2 ∧
      (system.exchange.slots claim.index).prepared = update.1 ∧
      (ExchangeProgram.claimLatest system.exchange).run apply system.exchange =
        (true, { system.exchange.setState claim.index .audioClaimed with claim := some claim }) := by
  obtain ⟨producer, consumer, safe, retains⟩ := current
  obtain ⟨resting, unowned⟩ := resting_of_quiescent safe retains quiescent
  obtain ⟨rfl, newer⟩ := latest_of_pendingUpdate initial pending
  exact retains.run_claimLatest resting unowned newer

/-- Running alone from a quiescent system without a pending update, `claim_latest`
returns false and frees every slot but the active one. -/
theorem claimLatest_settled (current : Current initial.2 initial system)
    (quiescent : Quiescent system) (settled : system.pendingUpdate = none) :
    ∃ after, (ExchangeProgram.claimLatest system.exchange).run apply system.exchange =
        (false, after) ∧
      ∀ index, index ≠ after.activeIndex → (after.slots index).state = .free := by
  obtain ⟨producer, consumer, safe, retains⟩ := current
  obtain ⟨resting, unowned⟩ := resting_of_quiescent safe retains quiescent
  have windowed := retains.windowed
  have within := latest_le_of_no_pendingUpdate retains settled
  refine ⟨_, ExchangeProgram.run_claimLatest_stale resting windowed fun index ready => ?_,
    fun index inactive => ?_⟩
  · rw [← Bool.not_eq_true, ExchangeProgram.generationNewer_iff (windowed.ready index ready)
      windowed.active, Nat.not_lt]
    exact (retains.bounded index (.inl ready)).trans within
  · have unowned := resting.unowned index
    have notActive : (system.exchange.slots index).state ≠ .active :=
      fun active => inactive ((resting.active index).mp active)
    dsimp only
    split_ifs with ready
    · rfl
    · cases state : (system.exchange.slots index).state <;> simp_all

/-- In one step, a ready or claimed slot loses its update only to a newer one. -/
theorem step_updateStep (current : Current base initial system) (event : ExchangeEvent Payload)
    {index : Fin slotCount}
    (held : (system.exchange.slots index).state = .ready ∨
      (system.exchange.slots index).state = .audioClaimed) :
    UpdateStep system.calls (system.exchange.slots index)
      ((system.step event).exchange.slots index)
      (system.step event).exchange.activeGeneration := by
  obtain ⟨producer, consumer, safe, retains⟩ := current
  cases event with
  | producerStep =>
      have follows := safe.producer_follows
      dsimp only [step]
      split
      · exact .of_same held rfl
      · rename_i action next pending
        rw [pending] at follows
        exact producer_updateStep retains safe.owned follows.1 held
  | consumerStep =>
      have follows := safe.consumer_follows
      dsimp only [step]
      split
      · exact .of_same held rfl
      · rename_i action next pending
        rw [pending] at follows
        exact consumer_updateStep safe.owned follows.1 held
  | publish | claimLatest | commit | cancel =>
      dsimp only [step]
      split <;> exact .of_same held rfl

/-- **No update is lost.** In every interleaving whose publish calls pass
generations of one window, a quiescent system's `claim_latest` returns exactly the
newest successful publish when it is newer than the active generation, and otherwise
returns false and frees every slot but the active one; and an update leaves its slot
only to become active, as no newer than the active one, or for a newer publish. -/
theorem reach_update_kept (before : PreparedConfigExchange Payload) (initial : Payload)
    (generation : Generation) (events : List (ExchangeEvent Payload))
    (window : ∀ event ∈ events, EventInWindow generation event) :
    let system := reach before initial generation events
    (Quiescent system →
      (∀ update, system.pendingUpdate = some update →
        ∃ claim, claim.generation = update.2 ∧
          (system.exchange.slots claim.index).prepared = update.1 ∧
          (ExchangeProgram.claimLatest system.exchange).run apply system.exchange =
            (true, { system.exchange.setState claim.index .audioClaimed with
              claim := some claim })) ∧
      (system.pendingUpdate = none →
        ∃ after, (ExchangeProgram.claimLatest system.exchange).run apply system.exchange =
            (false, after) ∧
          ∀ index, index ≠ after.activeIndex → (after.slots index).state = .free)) ∧
    ∀ event index, (system.exchange.slots index).state = .ready ∨
        (system.exchange.slots index).state = .audioClaimed →
      UpdateStep system.calls (system.exchange.slots index)
        ((system.step event).exchange.slots index)
        (system.step event).exchange.activeGeneration := by
  intro system
  have current : Current (initial, generation).2 (initial, generation) system :=
    current_reach before initial generation window
  exact ⟨fun quiescent =>
    ⟨fun update pending => claimLatest_pending current quiescent pending,
      claimLatest_settled current quiescent⟩,
    fun event index held => step_updateStep current event held⟩

/-- One published update, claimed by a consumer that was at rest. -/
theorem reach_update_kept_after_publish :
    ∃ claim : Claim, claim.generation = 1 ∧
      let system := reach ⟨fun _ => { prepared := 0 }, 0, 0, 0, false, none⟩ 0 0
        (.publish 5 1 :: List.replicate 6 .producerStep)
      (system.exchange.slots claim.index).prepared = 5 ∧
      (ExchangeProgram.claimLatest system.exchange).run apply system.exchange =
        (true, { system.exchange.setState claim.index .audioClaimed with claim := some claim }) := by
  have window : ∀ event ∈ ExchangeEvent.publish 5 1 :: List.replicate 6 .producerStep,
      EventInWindow 0 event := by
    intro event member
    rcases List.mem_cons.mp member with rfl | repeated
    · change InWindow 0 1
      decide
    · rw [List.eq_of_mem_replicate repeated]
      trivial
  exact ((reach_update_kept ⟨fun _ => { prepared := 0 }, 0, 0, 0, false, none⟩ 0 0 _ window).1
    ⟨trivial, trivial, rfl⟩).1 (5, 1) rfl

end ExchangeSystem

end M3Midi
