import M3Midi.Exchange.NewestUpdate

/-! # Calls between which nobody acts

A caller that runs each call to its end before the next one sees the exchange only
at rest: no slot is being written, and the claim is the only one the consumer
holds. Every call keeps the exchange at rest, leaves the claimed slot's contents
alone and, with generations of one window, keeps the newest publish.
-/

namespace M3Midi

open Foundation Foundation.SerialNumber

variable {Payload : Type}

namespace PreparedConfigExchange

/-- A call of `publish`, run to its end. -/
def publish (exchange : PreparedConfigExchange Payload) (prepared : Payload)
    (generation : Generation) : Bool × PreparedConfigExchange Payload :=
  (ExchangeProgram.publish exchange prepared generation).run apply exchange

/-- `claim_latest` without interference. -/
def claimLatest (exchange : PreparedConfigExchange Payload) :
    Bool × PreparedConfigExchange Payload :=
  (ExchangeProgram.claimLatest exchange).run apply exchange

/-- `commit` without interference. -/
def commit (exchange : PreparedConfigExchange Payload) : Bool × PreparedConfigExchange Payload :=
  (ExchangeProgram.commit exchange).run apply exchange

/-- `cancel` without interference. -/
def cancel (exchange : PreparedConfigExchange Payload) : Bool × PreparedConfigExchange Payload :=
  (ExchangeProgram.cancel exchange).run apply exchange

/-- What the consumer knows between two calls. -/
def view (exchange : PreparedConfigExchange Payload) : ConsumerView where
  activeIndex := exchange.activeIndex
  activeGeneration := exchange.activeGeneration
  claim := exchange.claim

/-- Between two calls each slot is with the party its state names. -/
def AtRest (exchange : PreparedConfigExchange Payload)
    (calls : List (Payload × Generation)) : Prop :=
  Owned exchange calls .idle exchange.view

/-- No access changes whether the exchange has been initialized. -/
theorem apply_initialized (exchange : PreparedConfigExchange Payload)
    (action : ExchangeAction Payload) :
    (exchange.apply action).2.initialized = exchange.initialized := by
  cases action with
  | claimState index expected desired =>
      simp only [apply]
      split_ifs <;> rfl
  | _ => rfl

theorem run_initialized {Result : Type} (program : ExchangeProgram Payload Result)
    (exchange : PreparedConfigExchange Payload) :
    (program.run apply exchange).2.initialized = exchange.initialized := by
  induction program generalizing exchange with
  | done result => rfl
  | act action next ih => exact (ih _ _).trans (exchange.apply_initialized action)

end PreparedConfigExchange

open PreparedConfigExchange

namespace Owned

variable {exchange : PreparedConfigExchange Payload} {calls : List (Payload × Generation)}
  {producer : ProducerView Payload} {consumer : ConsumerView} {Result : Type}

/-- A consumer's program, run alone, keeps the ownership, every slot's contents
and the newest publish. -/
theorem run_consumer {fits : ConsumerView → Result → Prop}
    {program : ExchangeProgram Payload Result}
    (follows : ConsumerView.protocol.Follows fits consumer program)
    (owned : Owned exchange calls producer consumer) :
    ∃ after, fits after (program.run apply exchange).1 ∧
      Owned (program.run apply exchange).2 calls producer after ∧
      (∀ index, ((program.run apply exchange).2.slots index).prepared =
        (exchange.slots index).prepared) ∧
      ∀ base latest, Retains base latest exchange producer →
        Retains base latest (program.run apply exchange).2 producer := by
  induction program generalizing exchange consumer with
  | done result => exact ⟨consumer, follows, owned, fun _ => rfl, fun _ _ => id⟩
  | act action next ih =>
      obtain ⟨after, fit, kept, contents, retains⟩ :=
        ih _ (follows.2 (exchange.apply action).1) (owned.consumer_step follows.1)
      refine ⟨after, fit, kept, fun index => ?_, fun base latest before => ?_⟩
      · exact (contents index).trans (consumer_apply_contents follows.1 index).1
      · exact retains base latest (before.consumer_step owned follows.1)

/-- A producer's program, run alone, keeps the ownership and leaves the slots of
the consumer alone. -/
theorem run_producer {program : ExchangeProgram Payload Bool}
    (follows : ProducerView.protocol.Follows ProducerView.fits producer program)
    (owned : Owned exchange calls producer consumer) :
    ∃ after : ProducerView Payload, after.fits (program.run apply exchange).1 ∧
      Owned (program.run apply exchange).2 calls after consumer ∧
      ∀ index, (exchange.slots index).state = .active ∨
          (exchange.slots index).state = .audioClaimed →
        (program.run apply exchange).2.slots index = exchange.slots index := by
  induction program generalizing exchange producer with
  | done result => exact ⟨producer, follows, owned, fun _ _ => rfl⟩
  | act action next ih =>
      obtain ⟨after, fit, kept, slots⟩ :=
        ih _ (follows.2 (exchange.apply action).1) (owned.producer_step follows.1)
      refine ⟨after, fit, kept, fun index held => ?_⟩
      have same := owned.producer_apply_slots follows.1 held
      exact (slots index (by rwa [same])).trans same

/-- A producer that has returned is idle again. -/
theorem idle (owned : Owned exchange calls producer consumer) {result : Bool}
    (returned : producer.fits result) : Owned exchange calls .idle consumer := by
  have unowned : producer.slot = none := by
    cases producer <;> first | rfl | exact absurd returned id
  obtain ⟨mirrors, writing, claimed, active, claim, known, unclaimed, swapping, contents, -⟩ := owned
  rw [unowned] at writing
  exact ⟨mirrors, writing, claimed, active, claim, known, unclaimed, swapping, contents, trivial⟩

/-- A consumer without a hold is at rest. -/
theorem atRest (owned : Owned exchange calls .idle consumer) (free : consumer.hold = .nothing) :
    exchange.AtRest calls := by
  have same : consumer = exchange.view := by
    obtain ⟨index, generation, claim⟩ := owned.mirrors
    cases consumer
    simp_all only [view]
  rw [same] at owned
  exact owned

end Owned

namespace Retains

variable {exchange : PreparedConfigExchange Payload} {calls : List (Payload × Generation)}
  {producer : ProducerView Payload} {consumer : ConsumerView} {base : Generation}
  {latest : Payload × Generation}

/-- A publication that has returned leaves a producer with nothing to do. -/
theorem idle (retains : Retains base latest exchange producer) {result : Bool}
    (returned : producer.fits result) : Retains base latest exchange .idle := by
  have unowned : producer.slot = none := by
    cases producer <;> first | rfl | exact absurd returned id
  obtain ⟨initialized, publisher, window, active, generation, bounded, payload, -, kept⟩ := retains
  rw [unowned] at kept
  exact ⟨initialized, publisher, window, active, generation, bounded, payload, nofun, kept⟩

/-- A publish that runs alone and returns true is the newest; one that returns
false leaves the newest as it was. -/
theorem run_producer {program : ExchangeProgram Payload Bool} {call : Payload × Generation}
    (head : calls.head? = some call)
    (follows : ProducerView.protocol.Follows ProducerView.fits producer program)
    (owned : Owned exchange calls producer consumer)
    (unreturned : producer ≠ .returned)
    (retains : Retains base latest exchange producer) :
    Retains base (if (program.run apply exchange).1 = true then call else latest)
      (program.run apply exchange).2 .idle := by
  induction program generalizing exchange producer with
  | done result =>
      cases result with
      | false => exact retains.idle follows
      | true =>
          cases producer <;> first | exact absurd rfl unreturned | exact nomatch follows
  | act action next ih =>
      rcases retains.producer_step owned follows.1 with
        ⟨unpublished, kept⟩ | ⟨other, found, returned, published⟩
      · exact ih _ (follows.2 _) (owned.producer_step follows.1) unpublished kept
      · obtain rfl := Option.some.inj (head.symm.trans found)
        have rest := follows.2 (exchange.apply action).1
        have finished : ProducerView.protocol.advance producer action (exchange.apply action).1 =
            .returned := returned
        rw [finished] at rest
        change Retains base (if ((next (exchange.apply action).1).run apply
          (exchange.apply action).2).1 = true then _ else latest)
          ((next (exchange.apply action).1).run apply (exchange.apply action).2).2 .idle
        cases program : next (exchange.apply action).1 with
        | act other rest' =>
            rw [program] at rest
            exact absurd rest.1 id
        | done result =>
            rw [program] at rest
            obtain rfl : result = true := rest
            exact published.idle (show ProducerView.fits .returned true from rfl)

end Retains

namespace PreparedConfigExchange

variable {exchange : PreparedConfigExchange Payload} {calls : List (Payload × Generation)}
  {base : Generation} {latest : Payload × Generation}

/-- A call of `publish` leaves the consumer's fields and slots alone. -/
theorem AtRest.publish (rest : exchange.AtRest calls) (prepared : Payload)
    (generation : Generation) :
    (exchange.publish prepared generation).2.AtRest ((prepared, generation) :: calls) ∧
      (exchange.publish prepared generation).2.view = exchange.view ∧
      ∀ index, (exchange.slots index).state = .active ∨
          (exchange.slots index).state = .audioClaimed →
        (exchange.publish prepared generation).2.slots index = exchange.slots index := by
  have started := rest.start_publish (show ProducerView.fits .idle false from rfl)
    (prepared, generation)
  obtain ⟨after, fit, kept, slots⟩ := started.run_producer
    (ExchangeProgram.publish_follows exchange (prepared, generation))
  have owned := kept.idle fit
  obtain ⟨index, active, claim⟩ := owned.mirrors
  have same : (exchange.publish prepared generation).2.view = exchange.view := by
    simp only [view]
    exact ConsumerView.mk.injEq .. |>.mpr ⟨index.symm, active.symm, claim.symm, rfl⟩
  exact ⟨owned.atRest rfl, same, slots⟩

/-- A publish that returns true is the newest; the others leave the newest as it was. -/
theorem AtRest.publish_retains (rest : exchange.AtRest calls)
    (retains : Retains base latest exchange .idle) (prepared : Payload) {generation : Generation}
    (inside : InWindow base generation) :
    Retains base (if (exchange.publish prepared generation).1 = true then (prepared, generation)
      else latest) (exchange.publish prepared generation).2 .idle := by
  have returned : ProducerView.fits (.idle : ProducerView Payload) false := rfl
  refine Retains.run_producer rfl
    (ExchangeProgram.publish_follows exchange (prepared, generation))
    (rest.start_publish returned (prepared, generation)) ?_
    (retains.start_publish returned inside)
  split_ifs <;> simp

/-- What a consumer's call leaves alone: contents, and the newest publish. -/
structure Keeps (before after : PreparedConfigExchange Payload)
    (calls : List (Payload × Generation)) : Prop where
  rest : after.AtRest calls
  initialized : after.initialized = before.initialized
  contents : ∀ index, (after.slots index).prepared = (before.slots index).prepared
  retains : ∀ base latest, Retains base latest before .idle → Retains base latest after .idle

theorem Keeps.trans {before middle after : PreparedConfigExchange Payload}
    (first : Keeps before middle calls) (second : Keeps middle after calls) :
    Keeps before after calls where
  rest := second.rest
  initialized := second.initialized.trans first.initialized
  contents index := (second.contents index).trans (first.contents index)
  retains base latest retains := second.retains base latest (first.retains base latest retains)

/-- A consumer's call that gives up its hold keeps the exchange at rest. -/
theorem AtRest.run (rest : exchange.AtRest calls) {program : ExchangeProgram Payload Bool}
    (follows : ConsumerView.protocol.Follows ConsumerView.fits exchange.view program) :
    Keeps exchange (program.run apply exchange).2 calls := by
  obtain ⟨after, fit, kept, contents, retains⟩ := rest.run_consumer follows
  exact ⟨kept.atRest fit, run_initialized program exchange, contents, retains⟩

/-- At rest, the exchange is as its consumer sees it. -/
theorem AtRest.mirrors_view (exchange : PreparedConfigExchange Payload) :
    ExchangeProgram.Mirrors exchange exchange.view := ⟨rfl, rfl, rfl⟩

/-- `claim_latest` returns true exactly when a claim is outstanding after it. -/
theorem AtRest.claimLatest (rest : exchange.AtRest calls) (unclaimed : exchange.claim = none) :
    Keeps exchange exchange.claimLatest.2 calls ∧
      exchange.claimLatest.1 = exchange.claimLatest.2.claim.isSome ∧
      exchange.claimLatest.2.activeIndex = exchange.activeIndex ∧
      exchange.claimLatest.2.activeGeneration = exchange.activeGeneration := by
  have mirrors := AtRest.mirrors_view exchange
  obtain ⟨after, ⟨same, answer⟩, kept, -, -⟩ :=
    rest.run_consumer (ExchangeProgram.claimLatest_claims mirrors rfl unclaimed)
  obtain ⟨index, active, claim⟩ := kept.mirrors
  refine ⟨rest.run (ExchangeProgram.claimLatest_follows mirrors rfl unclaimed),
    answer.trans (congrArg Option.isSome claim), ?_, ?_⟩
  · exact index.symm.trans (by rw [same]; rfl)
  · exact active.symm.trans (by rw [same]; rfl)

/-- A claim is outstanding on a claimed slot of its own, newer generation. -/
theorem AtRest.outstanding (rest : exchange.AtRest calls) {claim : Claim}
    (claimed : exchange.claim = some claim) :
    (exchange.slots claim.index).state = .audioClaimed ∧
      (exchange.slots claim.index).generation = claim.generation ∧
      generationNewer claim.generation exchange.activeGeneration = true := by
  obtain ⟨generation, newer⟩ := rest.claim_generation claim claimed
  refine ⟨?_, generation, newer⟩
  rw [rest.claimed]
  simp [ConsumerView.slot, view, claimed]

/-- Alone, an outstanding claim is valid. -/
theorem AtRest.run_validateClaim (rest : exchange.AtRest calls) {claim : Claim}
    (claimed : exchange.claim = some claim) :
    (ExchangeProgram.validateClaim claim).run apply exchange = (true, exchange) := by
  obtain ⟨state, generation, -⟩ := rest.outstanding claimed
  rw [ExchangeProgram.validateClaim, ExchangeProgram.run_loadState_bind, state,
    if_neg (not_not.mpr rfl), ExchangeProgram.run_loadGeneration_bind, generation]
  simp

/-- Alone, an outstanding claim is committed. -/
theorem AtRest.commit (rest : exchange.AtRest calls) (initialized : exchange.initialized = true)
    {claim : Claim} (claimed : exchange.claim = some claim) :
    exchange.commit.1 = true ∧ Keeps exchange exchange.commit.2 calls ∧
      exchange.commit.2.claim = none ∧ exchange.commit.2.activeIndex = claim.index ∧
      exchange.commit.2.activeGeneration = claim.generation := by
  refine ⟨?_, rest.run (ExchangeProgram.commit_follows (AtRest.mirrors_view exchange) rfl), ?_⟩
  all_goals
    unfold PreparedConfigExchange.commit ExchangeProgram.commit
    rw [claimed]
    dsimp only
    rw [if_neg (by simp [initialized]), Program.run_bind, rest.run_validateClaim claimed,
      if_pos ⟨rfl, (rest.outstanding claimed).2.2⟩, ExchangeProgram.run_storeState_bind,
      Program.run_bind, Program.run_bind, Program.run_pure]
  rw [ExchangeProgram.run_reclaimStaleReady]
  exact ⟨rfl, rfl, rfl⟩

/-- Alone, an outstanding claim is given back. -/
theorem AtRest.cancel (rest : exchange.AtRest calls) (initialized : exchange.initialized = true)
    {claim : Claim} (claimed : exchange.claim = some claim) :
    Keeps exchange exchange.cancel.2 calls ∧ exchange.cancel.2.claim = none ∧
      exchange.cancel.2.activeIndex = exchange.activeIndex ∧
      exchange.cancel.2.activeGeneration = exchange.activeGeneration := by
  refine ⟨rest.run (ExchangeProgram.cancel_follows (AtRest.mirrors_view exchange) rfl), ?_⟩
  unfold PreparedConfigExchange.cancel ExchangeProgram.cancel
  rw [claimed]
  dsimp only
  rw [if_neg (by simp [initialized]), Program.run_bind, rest.run_validateClaim claimed]
  exact ⟨rfl, rfl, rfl⟩

/-- Between two calls, without a claim, the exchange is resting. -/
theorem AtRest.resting (rest : exchange.AtRest calls) (initialized : exchange.initialized = true)
    (unclaimed : exchange.claim = none) : Resting exchange := by
  refine ⟨initialized, unclaimed, fun index => ?_, fun index => ⟨?_, ?_⟩⟩
  · rw [rest.active]
    simp [ConsumerView.activeSlot, view, eq_comm]
  · rw [Ne, rest.writing]
    simp [ProducerView.slot]
  · rw [Ne, rest.claimed]
    simp [ConsumerView.slot, view, unclaimed]

/-- Without a claim, `claim_latest` claims the newest publish while it is newer than
the active configuration. -/
theorem AtRest.claimLatest_newest (rest : exchange.AtRest calls) (unclaimed : exchange.claim = none)
    (retains : Retains base latest exchange .idle)
    (newer : generationNewer latest.2 exchange.activeGeneration = true) :
    ∃ claim, exchange.claimLatest.1 = true ∧ exchange.claimLatest.2.claim = some claim ∧
      (exchange.claimLatest.2.slots claim.index).prepared = latest.1 := by
  obtain ⟨claim, -, payload, outcome⟩ :=
    retains.run_claimLatest (rest.resting retains.initialized unclaimed) rfl newer
  refine ⟨claim, ?_⟩
  unfold PreparedConfigExchange.claimLatest
  rw [outcome]
  exact ⟨rfl, rfl, (setState_contents exchange claim.index claim.index .audioClaimed).1.trans payload⟩

/-- A freshly initialized exchange is at rest. -/
theorem atRest_initializeExchange (before : PreparedConfigExchange Payload) (initial : Payload)
    (generation : Generation) : (before.initializeExchange initial generation).AtRest [] :=
  (ExchangeSystem.safe_start before initial generation).owned

end PreparedConfigExchange

end M3Midi
