import M3Midi.Exchange.Interleaving

/-! # Slot ownership

Which party owns a slot is read off its state: the producer owns the slot it
writes, the consumer the slot it has claimed and the active one, and every other
slot is free or ready. No step of one party touches a slot of the other, so a
claimed slot keeps the payload and generation of the publish call that filled it.
-/

namespace M3Midi

open Foundation PreparedConfigExchange

variable {Payload : Type}

namespace PreparedConfigExchange

@[simp] theorem modifySlot_slots (exchange : PreparedConfigExchange Payload)
    (index other : Fin slotCount) (change : PreparedSlot Payload → PreparedSlot Payload) :
    (exchange.modifySlot index change).slots other =
      if other = index then change (exchange.slots index) else exchange.slots other := by
  by_cases same : other = index
  · subst same
    simp [modifySlot]
  · simp [modifySlot, same]

@[simp] theorem setState_slots (exchange : PreparedConfigExchange Payload)
    (index other : Fin slotCount) (state : PreparedSlotState) :
    (exchange.setState index state).slots other =
      if other = index then { exchange.slots index with state } else exchange.slots other :=
  modifySlot_slots exchange index other _

@[simp, grind =] theorem modifySlot_activeGeneration (exchange : PreparedConfigExchange Payload)
    (index : Fin slotCount) (change : PreparedSlot Payload → PreparedSlot Payload) :
    (exchange.modifySlot index change).activeGeneration = exchange.activeGeneration := rfl

@[simp, grind =] theorem setState_activeGeneration (exchange : PreparedConfigExchange Payload)
    (index : Fin slotCount) (state : PreparedSlotState) :
    (exchange.setState index state).activeGeneration = exchange.activeGeneration := rfl

/-- Changing a state changes no content. -/
theorem setState_contents (exchange : PreparedConfigExchange Payload)
    (index other : Fin slotCount) (state : PreparedSlotState) :
    ((exchange.setState index state).slots other).prepared = (exchange.slots other).prepared ∧
      ((exchange.setState index state).slots other).generation =
        (exchange.slots other).generation := by
  rw [setState_slots]
  by_cases same : other = index
  · subst same
    simp
  · simp [same]

/-- Only the active store of `commit` changes the consumer's fields. -/
theorem apply_active_fields (exchange : PreparedConfigExchange Payload)
    {action : ExchangeAction Payload} (other : ∀ claim, action ≠ .storeActive claim) :
    (exchange.apply action).2.activeGeneration = exchange.activeGeneration ∧
      (exchange.apply action).2.activeIndex = exchange.activeIndex := by
  cases action with
  | storeActive claim => exact absurd rfl (other claim)
  | claimState index expected desired =>
      simp only [apply]
      split_ifs <;> exact ⟨rfl, rfl⟩
  | _ => exact ⟨rfl, rfl⟩

end PreparedConfigExchange

/-- Between the two stores of `commit` only the second one is allowed. -/
theorem ConsumerView.swapping_action {view : ConsumerView} {action : ExchangeAction Payload}
    (swapping : view.hold = .swapping) (allowed : view.allows action) :
    ∃ claim, action = .storeActive claim := by
  cases action with
  | storeActive claim => exact ⟨claim, rfl⟩
  | loadState | loadGeneration => exact absurd swapping allowed
  | claimState | fillClaim | storeReturned =>
      exact absurd (swapping.symm.trans allowed.1) (by simp)
  | storeState index state =>
      cases state with
      | ready =>
          obtain ⟨known, taken⟩ := allowed
          exact absurd (swapping.symm.trans taken) (by simp)
      | free =>
          rcases allowed with ⟨generation, taken, -⟩ | ⟨idle, -⟩
          · exact absurd (swapping.symm.trans taken) (by simp)
          · exact absurd (swapping.symm.trans idle) (by simp)
      | _ => exact absurd allowed id
  | _ => exact absurd allowed id

/-- The producer has no active store. -/
theorem ProducerView.allows_ne_storeActive {view : ProducerView Payload}
    {action : ExchangeAction Payload} (allowed : view.allows action) (claim : Claim) :
    action ≠ .storeActive claim := by
  rintro rfl
  cases view <;> exact allowed

/-- What the producer has put into its slot so far, for the current call. -/
def ProducerView.Fills (slots : Fin slotCount → PreparedSlot Payload)
    (calls : List (Payload × Generation)) : ProducerView Payload → Prop
  | .choosing call | .taken _ call => calls.head? = some call
  | .written index call => calls.head? = some call ∧ (slots index).prepared = call.1
  | .tagged index call =>
      calls.head? = some call ∧ (slots index).prepared = call.1 ∧
        (slots index).generation = call.2
  | .idle | .returned => True

/-- Each slot's state names its owner, and each owner knows what its slot holds. No slot has two
owners, since its state has only one value at a time. -/
structure Owned (exchange : PreparedConfigExchange Payload) (calls : List (Payload × Generation))
    (producer : ProducerView Payload) (consumer : ConsumerView) : Prop where
  mirrors : ExchangeProgram.Mirrors exchange consumer
  writing : ∀ index, (exchange.slots index).state = .writing ↔ producer.slot = some index
  claimed : ∀ index, (exchange.slots index).state = .audioClaimed ↔ consumer.slot = some index
  active : ∀ index, (exchange.slots index).state = .active ↔ consumer.activeSlot = some index
  claim_generation : ∀ claim, consumer.claim = some claim →
    (exchange.slots claim.index).generation = claim.generation ∧
      generationNewer claim.generation consumer.activeGeneration = true
  known_generation : ∀ index generation, consumer.hold = .taken index (some generation) →
    (exchange.slots index).generation = generation
  taken_unclaimed : ∀ index known, consumer.hold = .taken index known → consumer.claim = none
  swapping_claimed : consumer.hold = .swapping → consumer.claim.isSome
  contents : ∀ index,
    (exchange.slots index).state = .ready ∨ (exchange.slots index).state = .audioClaimed →
      ((exchange.slots index).prepared, (exchange.slots index).generation) ∈ calls
  fills : producer.Fills exchange.slots calls

namespace Owned

variable {exchange : PreparedConfigExchange Payload} {calls : List (Payload × Generation)}
  {producer : ProducerView Payload} {consumer : ConsumerView}

/-- Taking a slot that is free or ready disturbs nobody. -/
theorem producer_take (owned : Owned exchange calls producer consumer)
    {call : Payload × Generation} {index : Fin slotCount} {expected : PreparedSlotState}
    (choosing : producer = .choosing call) (offered : expected = .free ∨ expected = .ready)
    (found : (exchange.slots index).state = expected) :
    Owned (exchange.setState index .writing) calls (.taken index call) consumer := by
  subst choosing
  obtain ⟨mirrors, writing, claimed, active, claim_generation, known_generation,
    taken_unclaimed, swapping_claimed, contents, fills⟩ := owned
  constructor
  · exact mirrors
  · grind [setState_slots, ProducerView.slot]
  · grind [setState_slots]
  · grind [setState_slots]
  · grind [setState_slots]
  · grind [setState_slots]
  · exact taken_unclaimed
  · exact swapping_claimed
  · grind [setState_slots]
  · exact fills

/-- Writing a taken slot changes no state and no slot of the consumer. -/
theorem producer_write (owned : Owned exchange calls producer consumer)
    {index : Fin slotCount} (next : ProducerView Payload)
    (change : PreparedSlot Payload → PreparedSlot Payload)
    (taken : producer.slot = some index) (kept : next.slot = some index)
    (same : ∀ slot, (change slot).state = slot.state)
    (fills : next.Fills (exchange.modifySlot index change).slots calls) :
    Owned (exchange.modifySlot index change) calls next consumer := by
  obtain ⟨mirrors, writing, claimed, active, claim_generation, known_generation,
    taken_unclaimed, swapping_claimed, contents, -⟩ := owned
  have held : (exchange.slots index).state = .writing := (writing index).mpr taken
  have states (other : Fin slotCount) :
      ((exchange.modifySlot index change).slots other).state = (exchange.slots other).state := by
    rw [modifySlot_slots]
    split_ifs with target
    · rw [same, target]
    · rfl
  constructor
  · exact mirrors
  · intro other
    rw [states, kept, writing, taken]
  · intro other
    rw [states, claimed]
  · intro other
    rw [states, active]
  · grind [modifySlot_slots, ConsumerView.slot]
  · grind [modifySlot_slots, ConsumerView.slot]
  · exact taken_unclaimed
  · exact swapping_claimed
  · grind [modifySlot_slots]
  · exact fills

/-- Releasing a filled slot offers the payload and generation of the call. -/
theorem producer_release (owned : Owned exchange calls producer consumer)
    {call : Payload × Generation} {index : Fin slotCount} (tagged : producer = .tagged index call)
    (generation : Generation) :
    Owned { exchange.setState index .ready with publisherGeneration := generation } calls
      .returned consumer := by
  subst tagged
  obtain ⟨mirrors, writing, claimed, active, claim_generation, known_generation,
    taken_unclaimed, swapping_claimed, contents, ⟨current, prepared, generation_eq⟩⟩ := owned
  have member : call ∈ calls := List.mem_of_mem_head? current
  constructor
  · exact mirrors
  · grind [setState_slots, ProducerView.slot]
  · grind [setState_slots, ProducerView.slot]
  · grind [setState_slots, ProducerView.slot]
  · grind [setState_slots]
  · grind [setState_slots]
  · exact taken_unclaimed
  · exact swapping_claimed
  · grind [setState_slots]
  · trivial

/-- Every action the producer's protocol allows keeps the ownership. -/
theorem producer_step (owned : Owned exchange calls producer consumer)
    {action : ExchangeAction Payload} (allowed : producer.allows action) :
    Owned (exchange.apply action).2 calls (producer.advance action (exchange.apply action).1)
      consumer := by
  cases producer with
  | idle => exact absurd allowed id
  | returned => exact absurd allowed id
  | choosing call =>
      cases action with
      | loadState index => exact owned
      | loadGeneration index => exact owned
      | claimState index expected desired =>
          obtain ⟨rfl, offered⟩ := allowed
          by_cases found : (exchange.slots index).state = expected
          · simp only [apply, if_pos found]
            exact owned.producer_take rfl offered found
          · simp only [apply, if_neg found]
            exact owned
      | _ => exact absurd allowed id
  | taken index call =>
      cases action with
      | writePrepared target prepared =>
          obtain ⟨rfl, rfl⟩ := allowed
          refine owned.producer_write (.written target call)
            (fun slot => { slot with prepared := call.1 }) rfl rfl (fun _ => rfl) ?_
          exact ⟨owned.fills, by rw [modifySlot_slots, if_pos rfl]⟩
      | _ => exact absurd allowed id
  | written index call =>
      cases action with
      | storeGeneration target generation =>
          obtain ⟨rfl, rfl⟩ := allowed
          refine owned.producer_write (.tagged target call)
            (fun slot => { slot with generation := call.2 }) rfl rfl (fun _ => rfl) ?_
          refine ⟨owned.fills.1, ?_⟩
          rw [modifySlot_slots, if_pos rfl]
          exact ⟨owned.fills.2, rfl⟩
      | _ => exact absurd allowed id
  | tagged index call =>
      cases action with
      | storePublished target generation =>
          obtain ⟨rfl, rfl⟩ := allowed
          exact owned.producer_release rfl call.2
      | _ => exact absurd allowed id

/-- Taking a ready slot disturbs nobody. -/
theorem consumer_take (owned : Owned exchange calls producer consumer) {index : Fin slotCount}
    (idle : consumer.hold = .nothing) (unclaimed : consumer.claim = none)
    (found : (exchange.slots index).state = .ready) :
    Owned (exchange.setState index .audioClaimed) calls producer
      { consumer with hold := .taken index none } := by
  obtain ⟨mirrors, writing, claimed, active, claim_generation, known_generation,
    taken_unclaimed, swapping_claimed, contents, fills⟩ := owned
  constructor
  · exact mirrors
  · grind [setState_slots]
  · grind [setState_slots, ConsumerView.slot]
  · grind [setState_slots, ConsumerView.activeSlot]
  · grind
  · grind
  · grind
  · grind
  · grind [setState_slots]
  · cases producer <;> grind [setState_slots, ProducerView.Fills]

/-- Giving up a taken slot, free or ready, leaves it to both parties. -/
theorem consumer_release (owned : Owned exchange calls producer consumer) {index : Fin slotCount}
    {known : Option Generation} {state : PreparedSlotState}
    (taken : consumer.hold = .taken index known) (given : state = .ready ∨ state = .free) :
    Owned (exchange.setState index state) calls producer { consumer with hold := .nothing } := by
  have unclaimed := owned.taken_unclaimed index known taken
  obtain ⟨mirrors, writing, claimed, active, claim_generation, known_generation,
    taken_unclaimed, swapping_claimed, contents, fills⟩ := owned
  constructor
  · exact mirrors
  · grind [setState_slots, ConsumerView.slot]
  · grind [setState_slots, ConsumerView.slot]
  · grind [setState_slots, ConsumerView.activeSlot, ConsumerView.slot]
  · grind
  · grind
  · grind
  · grind
  · grind [setState_slots, ConsumerView.slot]
  · cases producer <;> grind [setState_slots, ProducerView.Fills]

/-- Reading the generation of a taken slot is knowledge that lasts. -/
theorem consumer_learn (owned : Owned exchange calls producer consumer) {index : Fin slotCount}
    (taken : consumer.hold = .taken index none) :
    Owned exchange calls producer
      { consumer with hold := .taken index (some (exchange.slots index).generation) } := by
  have unclaimed := owned.taken_unclaimed index none taken
  obtain ⟨mirrors, writing, claimed, active, claim_generation, known_generation,
    taken_unclaimed, swapping_claimed, contents, fills⟩ := owned
  constructor
  · exact mirrors
  · exact writing
  · grind [ConsumerView.slot]
  · grind [ConsumerView.activeSlot]
  · grind
  · grind
  · grind
  · grind
  · exact contents
  · exact fills

/-- A filled claim holds the slot and the generation the consumer has read there. -/
theorem consumer_fill (owned : Owned exchange calls producer consumer) {claim : Claim}
    (taken : consumer.hold = .taken claim.index (some claim.generation))
    (newer : generationNewer claim.generation consumer.activeGeneration = true) :
    Owned { exchange with claim := some claim } calls producer
      { consumer with claim := some claim, hold := .nothing } := by
  obtain ⟨⟨sameIndex, sameGeneration, sameClaim⟩, writing, claimed, active, claim_generation,
    known_generation, taken_unclaimed, swapping_claimed, contents, fills⟩ := owned
  constructor
  · exact ⟨sameIndex, sameGeneration, rfl⟩
  · exact writing
  · grind [ConsumerView.slot]
  · grind [ConsumerView.activeSlot]
  · grind
  · grind
  · grind
  · grind
  · exact contents
  · exact fills

/-- The first store of `commit` leaves no slot active. -/
theorem consumer_leave (owned : Owned exchange calls producer consumer)
    (idle : consumer.hold = .nothing) (claimed : consumer.claim.isSome) :
    Owned (exchange.setState consumer.activeIndex .free) calls producer
      { consumer with hold := .swapping } := by
  obtain ⟨mirrors, writing, held, active, claim_generation, known_generation,
    taken_unclaimed, swapping_claimed, contents, fills⟩ := owned
  constructor
  · exact mirrors
  · grind [setState_slots, ConsumerView.activeSlot]
  · grind [setState_slots, ConsumerView.slot, ConsumerView.activeSlot]
  · grind [setState_slots, ConsumerView.activeSlot]
  · grind [setState_slots]
  · grind
  · grind
  · grind
  · grind [setState_slots]
  · cases producer <;> grind [setState_slots, ProducerView.Fills]

/-- The second store of `commit` makes the claimed slot the active one. -/
theorem consumer_adopt (owned : Owned exchange calls producer consumer) {claim : Claim}
    (swapping : consumer.hold = .swapping) (claimed : consumer.claim = some claim) :
    Owned
      { exchange.setState claim.index .active with
        activeIndex := claim.index, activeGeneration := claim.generation, claim := none }
      calls producer { activeIndex := claim.index, activeGeneration := claim.generation } := by
  obtain ⟨mirrors, writing, held, active, claim_generation, known_generation,
    taken_unclaimed, swapping_claimed, contents, fills⟩ := owned
  constructor
  · exact ⟨rfl, rfl, rfl⟩
  · grind [setState_slots, ConsumerView.slot]
  · grind [setState_slots, ConsumerView.slot]
  · grind [setState_slots, ConsumerView.activeSlot]
  · grind
  · grind
  · grind
  · grind
  · grind [setState_slots]
  · cases producer <;> grind [setState_slots, ProducerView.Fills]

/-- Cancelling a claim makes its slot ready again. -/
theorem consumer_return (owned : Owned exchange calls producer consumer) {claim : Claim}
    (idle : consumer.hold = .nothing) (claimed : consumer.claim = some claim) :
    Owned { exchange.setState claim.index .ready with claim := none } calls producer
      { consumer with claim := none } := by
  obtain ⟨⟨sameIndex, sameGeneration, sameClaim⟩, writing, held, active, claim_generation,
    known_generation, taken_unclaimed, swapping_claimed, contents, fills⟩ := owned
  constructor
  · exact ⟨sameIndex, sameGeneration, rfl⟩
  · grind [setState_slots, ConsumerView.slot]
  · grind [setState_slots, ConsumerView.slot]
  · grind [setState_slots, ConsumerView.activeSlot, ConsumerView.slot]
  · grind
  · grind
  · grind
  · grind
  · grind [setState_slots, ConsumerView.slot]
  · cases producer <;> grind [setState_slots, ProducerView.Fills]

/-- Every action the consumer's protocol allows keeps the ownership. -/
theorem consumer_step (owned : Owned exchange calls producer consumer)
    {action : ExchangeAction Payload} (allowed : consumer.allows action) :
    Owned (exchange.apply action).2 calls producer
      (consumer.advance action (exchange.apply action).1) := by
  cases action with
  | loadState index => exact owned
  | loadGeneration index =>
      simp only [apply, ConsumerView.advance]
      split_ifs with taken
      · exact owned.consumer_learn taken
      · exact owned
  | claimState index expected desired =>
      obtain ⟨idle, unclaimed, rfl, rfl⟩ := allowed
      by_cases found : (exchange.slots index).state = .ready
      · simp only [apply, if_pos found]
        exact owned.consumer_take idle unclaimed found
      · simp only [apply, if_neg found]
        exact owned
  | storeState index state =>
      cases state with
      | free =>
          rcases allowed with ⟨generation, taken, -⟩ | ⟨idle, rfl, claimed⟩
          · simp only [apply, ConsumerView.advance, taken, reduceCtorEq, ↓reduceIte]
            exact owned.consumer_release taken (.inr rfl)
          · simp only [apply, ConsumerView.advance, idle, ↓reduceIte]
            exact owned.consumer_leave idle claimed
      | ready =>
          obtain ⟨known, taken⟩ := allowed
          exact owned.consumer_release taken (.inl rfl)
      | _ => exact absurd allowed id
  | fillClaim claim => exact owned.consumer_fill allowed.1 allowed.2.2
  | storeActive claim => exact owned.consumer_adopt allowed.1 allowed.2
  | storeReturned index =>
      obtain ⟨idle, returned⟩ := allowed
      obtain ⟨claim, claimed, rfl⟩ := Option.map_eq_some_iff.mp returned
      exact owned.consumer_return idle claimed
  | _ => exact absurd allowed id

/-- A producer's action leaves every slot it does not own. -/
theorem producer_apply_slots (owned : Owned exchange calls producer consumer)
    {action : ExchangeAction Payload} (allowed : producer.allows action) {index : Fin slotCount}
    (held : (exchange.slots index).state = .active ∨
      (exchange.slots index).state = .audioClaimed) :
    (exchange.apply action).2.slots index = exchange.slots index := by
  have writing := owned.writing index
  cases producer with
  | choosing call =>
      cases action with
      | claimState target expected desired =>
          obtain ⟨rfl, offered⟩ := allowed
          grind [PreparedConfigExchange.apply, setState_slots]
      | _ => first | rfl | exact absurd allowed id
  | taken target call | written target call | tagged target call =>
      have elsewhere : index ≠ target := by grind [ProducerView.slot]
      cases action with
      | writePrepared | storeGeneration | storePublished =>
          first
          | exact absurd allowed id
          | obtain ⟨rfl, -⟩ := allowed
            exact Function.update_of_ne elsewhere _ _
      | _ => exact absurd allowed id
  | _ => exact absurd allowed id

/-- No consumer's action writes a payload or a generation. -/
theorem consumer_apply_contents {action : ExchangeAction Payload}
    (allowed : consumer.allows action) (index : Fin slotCount) :
    ((exchange.apply action).2.slots index).prepared = (exchange.slots index).prepared ∧
      ((exchange.apply action).2.slots index).generation = (exchange.slots index).generation := by
  cases action with
  | writePrepared | storeGeneration | storePublished => exact absurd allowed id
  | claimState target expected desired =>
      simp only [PreparedConfigExchange.apply]
      split_ifs
      · exact setState_contents exchange target index desired
      · exact ⟨rfl, rfl⟩
  | storeState target state => exact setState_contents exchange target index state
  | storeActive claim => exact setState_contents exchange claim.index index .active
  | storeReturned target => exact setState_contents exchange target index .ready
  | _ => exact ⟨rfl, rfl⟩

/-- The active generation moves only when `commit` adopts a newer claim. -/
theorem consumer_apply_activeGeneration (owned : Owned exchange calls producer consumer)
    {action : ExchangeAction Payload} (allowed : consumer.allows action) :
    (exchange.apply action).2.activeGeneration = exchange.activeGeneration ∨
      generationNewer (exchange.apply action).2.activeGeneration
        exchange.activeGeneration = true := by
  by_cases adopts : ∃ claim, action = .storeActive claim
  · obtain ⟨claim, rfl⟩ := adopts
    refine .inr ?_
    rw [← owned.mirrors.2.1]
    exact (owned.claim_generation claim allowed.2).2
  · exact .inl (apply_active_fields _ (not_exists.mp adopts)).1

/-- A call of `publish` starts from any view that has returned. -/
theorem start_publish (owned : Owned exchange calls producer consumer) {result : Bool}
    (returned : producer.fits result) (call : Payload × Generation) :
    Owned exchange (call :: calls)
      (if generationNewer call.2 exchange.publisherGeneration = true then .choosing call
        else .idle) consumer := by
  have unowned : producer.slot = none := by
    cases producer <;> first | rfl | exact absurd returned id
  refine ⟨owned.mirrors, fun index => ?_, owned.claimed, owned.active, owned.claim_generation,
    owned.known_generation, owned.taken_unclaimed, owned.swapping_claimed,
    fun index held => List.mem_cons_of_mem _ (owned.contents index held), ?_⟩
  · rw [owned.writing, unowned]
    split_ifs <;> simp [ProducerView.slot]
  · split_ifs
    · rfl
    · trivial

end Owned

namespace ExchangeSystem

/-- Both parties follow their protocols, and the slots are theirs as they say. Whatever the
scheduler does, it is kept step by step. -/
structure Safe (system : ExchangeSystem Payload) (producer : ProducerView Payload)
    (consumer : ConsumerView) : Prop where
  producer_follows : ProducerView.protocol.Follows ProducerView.fits producer system.producer
  consumer_follows : ConsumerView.protocol.Follows ConsumerView.fits consumer system.consumer
  owned : Owned system.exchange system.calls producer consumer

variable {system : ExchangeSystem Payload} {producer : ProducerView Payload}
  {consumer : ConsumerView}

/-- The beginning of a publication keeps the exchange safe. -/
theorem safe_publish (safe : Safe system producer consumer) (prepared : Payload)
    (generation : Generation) :
    ∃ next, Safe (system.step (.publish prepared generation)) next consumer := by
  dsimp only [step]
  have follows := safe.producer_follows
  split
  · rename_i result returned
    rw [returned] at follows
    exact ⟨_, ExchangeProgram.publish_follows system.exchange (prepared, generation),
      safe.consumer_follows, safe.owned.start_publish follows (prepared, generation)⟩
  · exact ⟨producer, safe⟩

/-- A step of the producer keeps it safe, whatever its program is at. -/
theorem safe_producerStep (safe : Safe system producer consumer) :
    ∃ next, Safe (system.step .producerStep) next consumer := by
  dsimp only [step]
  have follows := safe.producer_follows
  split
  · exact ⟨producer, safe⟩
  · rename_i action next pending
    rw [pending] at follows
    exact ⟨_, follows.2 _, safe.consumer_follows, safe.owned.producer_step follows.1⟩

/-- A consumer's call starts a program that its view follows. -/
theorem safe_call (safe : Safe system producer consumer) {call : ExchangeProgram Payload Bool}
    (follows : ConsumerView.protocol.Follows ConsumerView.fits consumer call) :
    Safe { system with consumer := call } producer consumer :=
  ⟨safe.producer_follows, follows, safe.owned⟩

theorem safe_consumerStep (safe : Safe system producer consumer) :
    ∃ next, Safe (system.step .consumerStep) producer next := by
  dsimp only [step]
  have follows := safe.consumer_follows
  split
  · exact ⟨consumer, safe⟩
  · rename_i action next pending
    rw [pending] at follows
    exact ⟨_, safe.producer_follows, follows.2 _, safe.owned.consumer_step follows.1⟩

/-- The beginning of a claim keeps it safe. -/
theorem safe_claimLatest (safe : Safe system producer consumer) :
    Safe (system.step .claimLatest) producer consumer := by
  have follows := safe.consumer_follows
  dsimp only [step]
  split
  · rename_i result returned unclaimed
    rw [returned] at follows
    exact safe_call safe
      (ExchangeProgram.claimLatest_follows safe.owned.mirrors follows unclaimed)
  · exact safe

theorem safe_commit (safe : Safe system producer consumer) :
    Safe (system.step .commit) producer consumer := by
  have follows := safe.consumer_follows
  dsimp only [step]
  split
  · rename_i result returned
    rw [returned] at follows
    exact safe_call safe (ExchangeProgram.commit_follows safe.owned.mirrors follows)
  · exact safe

theorem safe_cancel (safe : Safe system producer consumer) :
    Safe (system.step .cancel) producer consumer := by
  have follows := safe.consumer_follows
  dsimp only [step]
  split
  · rename_i result returned
    rw [returned] at follows
    exact safe_call safe (ExchangeProgram.cancel_follows safe.owned.mirrors follows)
  · exact safe

/-- Every event keeps the system safe. -/
theorem safe_step (safe : Safe system producer consumer) (event : ExchangeEvent Payload) :
    ∃ nextProducer nextConsumer, Safe (system.step event) nextProducer nextConsumer := by
  cases event with
  | publish prepared generation =>
      obtain ⟨next, kept⟩ := safe_publish safe prepared generation
      exact ⟨next, consumer, kept⟩
  | producerStep =>
      obtain ⟨next, kept⟩ := safe_producerStep safe
      exact ⟨next, consumer, kept⟩
  | claimLatest => exact ⟨producer, consumer, safe_claimLatest safe⟩
  | commit => exact ⟨producer, consumer, safe_commit safe⟩
  | cancel => exact ⟨producer, consumer, safe_cancel safe⟩
  | consumerStep =>
      obtain ⟨next, kept⟩ := safe_consumerStep safe
      exact ⟨producer, next, kept⟩

/-- The exchange is safe when it has been initialized: one slot is active, and nobody is at work.
-/
theorem safe_start (before : PreparedConfigExchange Payload) (initial : Payload)
    (generation : Generation) :
    Safe (start before initial generation) .idle ⟨0, generation, none, .nothing⟩ := by
  refine ⟨rfl, rfl, ⟨rfl, rfl, rfl⟩, ?_, ?_, ?_, by simp, by simp, by simp, by simp, ?_, trivial⟩
  all_goals
    intro index
    by_cases first : index = 0
    · subst first
      simp [start, initializeExchange, ProducerView.slot, ConsumerView.slot,
        ConsumerView.activeSlot]
    · simp [start, initializeExchange, reset, ProducerView.slot, ConsumerView.slot,
        ConsumerView.activeSlot, first, Ne.symm first]

/-- Every reachable system is safe. -/
theorem safe_reach (before : PreparedConfigExchange Payload) (initial : Payload)
    (generation : Generation) (events : List (ExchangeEvent Payload)) :
    ∃ producer consumer, Safe (reach before initial generation events) producer consumer := by
  have preserved (system : ExchangeSystem Payload) (event : ExchangeEvent Payload)
      (safe : ∃ producer consumer, Safe system producer consumer) :
      ∃ producer consumer, Safe (machine.step system event).1 producer consumer := by
    obtain ⟨producer, consumer, safe⟩ := safe
    exact safe_step safe event
  exact machine.run_preserves preserved ⟨_, _, safe_start before initial generation⟩ events

/-- The consumer stands between the two stores of `commit`. -/
def InsideCommit (system : ExchangeSystem Payload) : Prop :=
  ∃ claim next, system.consumer = .act (.storeActive claim) next

/-- Outside the two stores of `commit`, the active slot is exactly the consumer's. -/
theorem active_iff (safe : Safe system producer consumer) :
    (∀ index, (system.exchange.slots index).state = .active ↔
        index = system.exchange.activeIndex) ∨
      (InsideCommit system ∧ ∀ index, (system.exchange.slots index).state ≠ .active) := by
  have follows := safe.consumer_follows
  by_cases swapping : consumer.hold = .swapping
  · refine .inr ⟨?_, fun index => ?_⟩
    · cases pending : system.consumer with
      | done result =>
          rw [pending] at follows
          exact absurd (swapping.symm.trans follows) (by simp)
      | act action next =>
          rw [pending] at follows
          obtain ⟨claim, rfl⟩ := ConsumerView.swapping_action swapping follows.1
          exact ⟨claim, next, pending⟩
    · rw [Ne, safe.owned.active, ConsumerView.activeSlot, if_pos swapping]
      simp
  · refine .inl fun index => ?_
    rw [safe.owned.active, ConsumerView.activeSlot, if_neg swapping, ← safe.owned.mirrors.1,
      Option.some.injEq, eq_comm]

/-- A claimed slot is in the claimed state and holds one publish call. -/
theorem claim_contents (safe : Safe system producer consumer) {claim : Claim}
    (claimed : system.exchange.claim = some claim) :
    (system.exchange.slots claim.index).state = .audioClaimed ∧
      (system.exchange.slots claim.index).generation = claim.generation ∧
        ((system.exchange.slots claim.index).prepared, claim.generation) ∈ system.calls := by
  have held : consumer.claim = some claim := safe.owned.mirrors.2.2.trans claimed
  have generation := (safe.owned.claim_generation claim held).1
  have state : (system.exchange.slots claim.index).state = .audioClaimed := by
    rw [safe.owned.claimed, ConsumerView.slot]
    split
    · rename_i index known taken
      exact absurd (safe.owned.taken_unclaimed index known taken) (by simp [held])
    · rw [held, Option.map_some]
  refine ⟨state, generation, ?_⟩
  rw [← generation]
  exact safe.owned.contents claim.index (.inr state)

/-- The producer leaves active and claimed slots alone. -/
theorem producerStep_slots (safe : Safe system producer consumer) {index : Fin slotCount}
    (held : (system.exchange.slots index).state = .active ∨
      (system.exchange.slots index).state = .audioClaimed) :
    (system.step .producerStep).exchange.slots index = system.exchange.slots index := by
  have follows := safe.producer_follows
  dsimp only [step]
  split
  · rfl
  · rename_i action next pending
    rw [pending] at follows
    exact safe.owned.producer_apply_slots follows.1 held

/-- No event changes what a claimed slot holds. -/
theorem step_claimed_contents (safe : Safe system producer consumer) {claim : Claim}
    (claimed : system.exchange.claim = some claim) (event : ExchangeEvent Payload) :
    ((system.step event).exchange.slots claim.index).prepared =
        (system.exchange.slots claim.index).prepared ∧
      ((system.step event).exchange.slots claim.index).generation =
        (system.exchange.slots claim.index).generation := by
  have state := (claim_contents safe claimed).1
  cases event with
  | producerStep =>
      rw [producerStep_slots safe (.inr state)]
      exact ⟨rfl, rfl⟩
  | consumerStep =>
      have follows := safe.consumer_follows
      dsimp only [step]
      split
      · exact ⟨rfl, rfl⟩
      · rename_i action next pending
        rw [pending] at follows
        exact Owned.consumer_apply_contents follows.1 claim.index
  | publish | claimLatest | commit | cancel =>
      dsimp only [step]
      split <;> exact ⟨rfl, rfl⟩

/-- The active generation moves to newer generations only. -/
theorem step_activeGeneration (safe : Safe system producer consumer)
    (event : ExchangeEvent Payload) :
    (system.step event).exchange.activeGeneration = system.exchange.activeGeneration ∨
      generationNewer (system.step event).exchange.activeGeneration
        system.exchange.activeGeneration = true := by
  cases event with
  | producerStep =>
      have follows := safe.producer_follows
      refine .inl ?_
      dsimp only [step]
      split
      · rfl
      · rename_i action next pending
        rw [pending] at follows
        exact (apply_active_fields _ (ProducerView.allows_ne_storeActive follows.1)).1
  | consumerStep =>
      have follows := safe.consumer_follows
      dsimp only [step]
      split
      · exact .inl rfl
      · rename_i action next pending
        rw [pending] at follows
        exact safe.owned.consumer_apply_activeGeneration follows.1
  | publish | claimLatest | commit | cancel =>
      dsimp only [step]
      split <;> exact .inl rfl

/-- **Slot ownership.** In every interleaving of one producer and one consumer,
the consumer's slot is the one active slot except between the two stores of
`commit`; the producer changes no active or claimed slot; a claim keeps the payload
and generation of one publish call while it is outstanding; and the active
generation only moves to a newer one. -/
theorem reach_slot_ownership (before : PreparedConfigExchange Payload) (initial : Payload)
    (generation : Generation) (events : List (ExchangeEvent Payload)) :
    let system := reach before initial generation events
    ((∀ index, (system.exchange.slots index).state = .active ↔
        index = system.exchange.activeIndex) ∨
      (InsideCommit system ∧ ∀ index, (system.exchange.slots index).state ≠ .active)) ∧
    (∀ index, (system.exchange.slots index).state = .active ∨
        (system.exchange.slots index).state = .audioClaimed →
      (system.step .producerStep).exchange.slots index = system.exchange.slots index) ∧
    (∀ claim, system.exchange.claim = some claim →
      (system.exchange.slots claim.index).state = .audioClaimed ∧
      (system.exchange.slots claim.index).generation = claim.generation ∧
      ((system.exchange.slots claim.index).prepared, claim.generation) ∈ system.calls ∧
      ∀ event, ((system.step event).exchange.slots claim.index).prepared =
          (system.exchange.slots claim.index).prepared ∧
        ((system.step event).exchange.slots claim.index).generation =
          (system.exchange.slots claim.index).generation) ∧
    ∀ event,
      (system.step event).exchange.activeGeneration = system.exchange.activeGeneration ∨
        generationNewer (system.step event).exchange.activeGeneration
          system.exchange.activeGeneration = true := by
  intro system
  obtain ⟨producer, consumer, safe⟩ := safe_reach before initial generation events
  refine ⟨active_iff safe, fun index held => producerStep_slots safe held, ?_,
    step_activeGeneration safe⟩
  intro claim claimed
  obtain ⟨state, sameGeneration, member⟩ := claim_contents safe claimed
  exact ⟨state, sameGeneration, member, step_claimed_contents safe claimed⟩

end ExchangeSystem

end M3Midi
