import M3Midi.Exchange.PreparedConfigExchange
import M3Midi.Foundation.Transducer

/-! # Interleavings of one producer and one consumer

The producer and the consumer each run one call at a time. Between two atomic
actions of one, the other may perform any number of its own. Each party keeps to
a protocol: it stores only into slots it has taken by a compare-and-swap, and the
consumer frees a ready slot only after it has read, as the slot's owner, that the
slot is not newer than the active one.
-/

namespace M3Midi

open Foundation PreparedConfigExchange

/-- The exchange between its two parties. The histories of publish calls, and of
those that returned true, have the latest first. -/
structure ExchangeSystem (Payload : Type) where
  exchange : PreparedConfigExchange Payload
  producer : ExchangeProgram Payload Bool := .done false
  consumer : ExchangeProgram Payload Bool := .done false
  calls : List (Payload × Generation) := []
  published : List (Payload × Generation) := []

/-- What the two parties and their scheduler may do next. A call begins when the party is idle.
Afterwards each step is one atomic access. -/
inductive ExchangeEvent (Payload : Type)
  | publish (prepared : Payload) (generation : Generation)
  | producerStep
  | claimLatest
  | commit
  | cancel
  | consumerStep

namespace ExchangeSystem

variable {Payload : Type}

/-- The history after the producer's program has moved on. -/
def recordPublished (system : ExchangeSystem Payload) :
    ExchangeProgram Payload Bool → List (Payload × Generation)
  | .done true => system.calls.take 1 ++ system.published
  | _ => system.published

/-- One event. A call starts only when its party has returned from the last one,
and `claim_latest` only without an outstanding claim. -/
def step (system : ExchangeSystem Payload) : ExchangeEvent Payload → ExchangeSystem Payload
  | .publish prepared generation =>
      match system.producer with
      | .done _ =>
          { system with
            producer := ExchangeProgram.publish system.exchange prepared generation
            calls := (prepared, generation) :: system.calls }
      | .act _ _ => system
  | .producerStep =>
      match system.producer with
      | .done _ => system
      | .act action next =>
          let outcome := system.exchange.apply action
          { system with
            exchange := outcome.2
            producer := next outcome.1
            published := system.recordPublished (next outcome.1) }
  | .claimLatest =>
      match system.consumer, system.exchange.claim with
      | .done _, none => { system with consumer := ExchangeProgram.claimLatest system.exchange }
      | _, _ => system
  | .commit =>
      match system.consumer with
      | .done _ => { system with consumer := ExchangeProgram.commit system.exchange }
      | .act _ _ => system
  | .cancel =>
      match system.consumer with
      | .done _ => { system with consumer := ExchangeProgram.cancel system.exchange }
      | .act _ _ => system
  | .consumerStep =>
      match system.consumer with
      | .done _ => system
      | .act action next =>
          let outcome := system.exchange.apply action
          { system with exchange := outcome.2, consumer := next outcome.1 }

/-- The system as a machine that reads events. -/
def machine : Transducer (ExchangeEvent Payload) (ExchangeSystem Payload) Empty where
  step system event := (system.step event, [])

/-- The system after `initialize`, before any call. -/
def start (before : PreparedConfigExchange Payload) (initial : Payload)
    (generation : Generation) : ExchangeSystem Payload where
  exchange := before.initializeExchange initial generation

/-- The system after a list of events. -/
def reach (before : PreparedConfigExchange Payload) (initial : Payload)
    (generation : Generation) (events : List (ExchangeEvent Payload)) : ExchangeSystem Payload :=
  (machine.run (start before initial generation) events).1

end ExchangeSystem

/-- What the producer knows of the call it runs. It names the slot that the producer has taken, if
it has taken one. -/
inductive ProducerView (Payload : Type)
  | idle
  | choosing (call : Payload × Generation)
  | taken (index : Fin slotCount) (call : Payload × Generation)
  | written (index : Fin slotCount) (call : Payload × Generation)
  | tagged (index : Fin slotCount) (call : Payload × Generation)
  | returned

/-- What the consumer holds besides its claim: nothing, a slot it has taken with
the generation it has read there since, or no active slot inside `commit`. -/
inductive ConsumerHold
  | nothing
  | taken (index : Fin slotCount) (known : Option Generation)
  | swapping
  deriving DecidableEq

/-- What the consumer knows: its own fields, and what it holds. Nothing else of the exchange is
known to it between two of its steps. -/
structure ConsumerView where
  activeIndex : Fin slotCount
  activeGeneration : Generation
  claim : Option Claim := none
  hold : ConsumerHold := .nothing

namespace ProducerView

variable {Payload : Type}

/-- The slot the producer owns. -/
def slot : ProducerView Payload → Option (Fin slotCount)
  | taken index _ | written index _ | tagged index _ => some index
  | _ => none

/-- What the producer may do at its point of a publication. -/
def allows : ProducerView Payload → ExchangeAction Payload → Prop
  | choosing _, .loadState _ => True
  | choosing _, .loadGeneration _ => True
  | choosing _, .claimState _ expected desired =>
      desired = .writing ∧ (expected = .free ∨ expected = .ready)
  | taken index call, .writePrepared target prepared => target = index ∧ prepared = call.1
  | written index call, .storeGeneration target generation =>
      target = index ∧ generation = call.2
  | tagged index call, .storePublished target generation =>
      target = index ∧ generation = call.2
  | _, _ => False

/-- Where the producer is after the answer. -/
def advance : ProducerView Payload → (action : ExchangeAction Payload) → action.Answer →
    ProducerView Payload
  | choosing call, .claimState index _ _, claimed =>
      bif claimed then taken index call else choosing call
  | taken index call, .writePrepared _ _, _ => written index call
  | written index call, .storeGeneration _ _, _ => tagged index call
  | tagged _ _, .storePublished _ _, _ => returned
  | view, _, _ => view

/-- A call returns true exactly after it has published. -/
def fits : ProducerView Payload → Bool → Prop
  | idle, result | choosing _, result => result = false
  | returned, result => result = true
  | _, _ => False

/-- The producer stores only into the slot it has taken. -/
def protocol : Protocol (ExchangeAction Payload) ExchangeAction.Answer (ProducerView Payload) where
  allows := allows
  advance := advance

end ProducerView

namespace ConsumerView

variable {Payload : Type}

/-- The slot the consumer has claimed, for a call or for a claim. -/
def slot (view : ConsumerView) : Option (Fin slotCount) :=
  match view.hold with
  | .taken index _ => some index
  | _ => view.claim.map Claim.index

/-- The slot of the active configuration. -/
def activeSlot (view : ConsumerView) : Option (Fin slotCount) :=
  if view.hold = .swapping then none else some view.activeIndex

/-- What the consumer may do with what it holds. -/
def allows (view : ConsumerView) : ExchangeAction Payload → Prop
  | .loadState _ | .loadGeneration _ => view.hold ≠ .swapping
  | .claimState _ expected desired =>
      view.hold = .nothing ∧ view.claim = none ∧ expected = .ready ∧ desired = .audioClaimed
  | .storeState index .ready => ∃ known, view.hold = .taken index known
  | .storeState index .free =>
      (∃ generation, view.hold = .taken index (some generation) ∧
        generationNewer generation view.activeGeneration = false) ∨
      (view.hold = .nothing ∧ index = view.activeIndex ∧ view.claim.isSome)
  | .fillClaim claim =>
      view.hold = .taken claim.index (some claim.generation) ∧ view.claim = none ∧
        generationNewer claim.generation view.activeGeneration = true
  | .storeActive claim => view.hold = .swapping ∧ view.claim = some claim
  | .storeReturned index => view.hold = .nothing ∧ view.claim.map Claim.index = some index
  | _ => False

/-- What the consumer holds after the answer. -/
def advance (view : ConsumerView) : (action : ExchangeAction Payload) → action.Answer →
    ConsumerView
  | .loadGeneration index, generation =>
      if view.hold = .taken index none then { view with hold := .taken index (some generation) }
      else view
  | .claimState index _ _, claimed =>
      bif claimed then { view with hold := .taken index none } else view
  | .storeState _ .free, _ =>
      { view with hold := if view.hold = .nothing then .swapping else .nothing }
  | .storeState _ _, _ => { view with hold := .nothing }
  | .fillClaim claim, _ => { view with claim := some claim, hold := .nothing }
  | .storeActive claim, _ => { activeIndex := claim.index, activeGeneration := claim.generation }
  | .storeReturned _, _ => { view with claim := none }
  | _, _ => view

/-- Between calls the consumer holds nothing but its claim. -/
def fits (view : ConsumerView) (_result : Bool) : Prop := view.hold = .nothing

/-- The consumer stores only into slots it has taken and into its active slot. -/
def protocol : Protocol (ExchangeAction Payload) ExchangeAction.Answer ConsumerView where
  allows := allows
  advance := advance

end ConsumerView

namespace ExchangeProgram

variable {Payload : Type}

section Producer

variable (call : Payload × Generation)

/-- The search for a free slot only loads, as a producer that is choosing may. -/
theorem findFree_follows (indices : List (Fin slotCount)) :
    ProducerView.protocol.Follows (fun view _ => view = .choosing call) (.choosing call)
      (findFree indices) := by
  induction indices with
  | nil => exact rfl
  | cons index rest ih =>
      refine Protocol.follows_perform_bind _ trivial fun state => ?_
      split_ifs
      · exact rfl
      · exact ih

theorem findOldestReady_follows (indices : List (Fin slotCount))
    (oldest : Option (Fin slotCount × Generation)) :
    ProducerView.protocol.Follows (fun view _ => view = .choosing call) (.choosing call)
      (findOldestReady indices oldest) := by
  induction indices generalizing oldest with
  | nil => exact rfl
  | cons index rest ih =>
      refine Protocol.follows_perform_bind _ trivial fun state => ?_
      split_ifs
      · exact ih oldest
      · refine Protocol.follows_perform_bind _ trivial fun generation => ?_
        split
        · exact ih _
        · split_ifs
          · exact ih _
          · exact ih _

/-- The producer takes free and ready slots only. -/
theorem selectPublishSlot_follows :
    ProducerView.protocol.Follows
      (fun view choice => view = .choosing call ∧
        ∀ selected expected, choice = some (selected, expected) →
          expected = .free ∨ expected = .ready)
      (.choosing call) selectPublishSlot := by
  refine Protocol.follows_bind _ (findFree_follows call slotOrder) ?_
  rintro view (_ | index) rfl
  · refine Protocol.follows_bind _ (findOldestReady_follows call slotOrder none) ?_
    rintro view (_ | ⟨index, generation⟩) rfl
    · exact ⟨rfl, by simp⟩
    · exact ⟨rfl, by simp⟩
  · exact ⟨rfl, by simp⟩

/-- A producer that has taken a slot writes its contents, then its generation, and then gives it up
as ready. -/
theorem writeSlot_follows (selected : Fin slotCount) :
    ProducerView.protocol.Follows ProducerView.fits (.taken selected call)
      (writeSlot call.1 call.2 selected) :=
  ⟨⟨rfl, rfl⟩, fun _ => ⟨⟨rfl, rfl⟩, fun _ => ⟨⟨rfl, rfl⟩, fun _ => rfl⟩⟩⟩

/-- Every attempt of a publication follows the protocol of the producer. -/
theorem publishAttempts_follows (attempts : Nat) :
    ProducerView.protocol.Follows ProducerView.fits (.choosing call)
      (publishAttempts call.1 call.2 attempts) := by
  induction attempts with
  | zero => exact rfl
  | succ attempts ih =>
      refine Protocol.follows_bind _ (selectPublishSlot_follows call) ?_
      rintro view (_ | ⟨selected, expected⟩) ⟨rfl, allowed⟩
      · exact rfl
      · refine Protocol.follows_perform_bind _ ⟨rfl, allowed selected expected rfl⟩ ?_
        rintro (_ | _)
        · exact ih
        · exact writeSlot_follows call selected

end Producer

/-- The producer starts a call in a view that `publish` follows. -/
theorem publish_follows (exchange : PreparedConfigExchange Payload)
    (call : Payload × Generation) :
    ProducerView.protocol.Follows ProducerView.fits
      (if generationNewer call.2 exchange.publisherGeneration = true then .choosing call else .idle)
      (publish exchange call.1 call.2) := by
  unfold publish
  by_cases newer : generationNewer call.2 exchange.publisherGeneration = true
  · rw [if_pos newer]
    split_ifs
    · exact rfl
    · exact publishAttempts_follows call slotCount
  · rw [if_neg newer, if_pos (.inr (Bool.not_eq_true _ ▸ newer))]
    exact rfl

section Consumer

variable {Result : Type} {view : ConsumerView} {fits : ConsumerView → Result → Prop}
  {index : Fin slotCount}

/-- Loading a state tells the consumer nothing that lasts. -/
theorem loadState_bind_follows {rest : PreparedSlotState → ExchangeProgram Payload Result}
    (outside : view.hold ≠ .swapping)
    (continues : ∀ state, ConsumerView.protocol.Follows fits view (rest state)) :
    ConsumerView.protocol.Follows fits view (loadState index >>= rest) :=
  ⟨outside, continues⟩

/-- Nor does the generation of a slot the consumer has not just taken. -/
theorem loadGeneration_bind_follows {rest : Generation → ExchangeProgram Payload Result}
    (outside : view.hold ≠ .swapping) (known : view.hold ≠ .taken index none)
    (continues : ∀ generation, ConsumerView.protocol.Follows fits view (rest generation)) :
    ConsumerView.protocol.Follows fits view (loadGeneration index >>= rest) := by
  refine ⟨outside, fun (generation : Generation) => ?_⟩
  have unchanged : ConsumerView.protocol.advance view
      (.loadGeneration index : ExchangeAction Payload) generation = view := if_neg known
  rw [unchanged]
  exact continues generation

/-- The owner of a slot learns its generation. -/
theorem loadOwnGeneration_bind_follows {rest : Generation → ExchangeProgram Payload Result}
    (held : view.hold = .taken index none)
    (continues : ∀ generation, ConsumerView.protocol.Follows fits
      { view with hold := .taken index (some generation) } (rest generation)) :
    ConsumerView.protocol.Follows fits view (loadGeneration index >>= rest) := by
  refine ⟨by simp [ConsumerView.protocol, ConsumerView.allows, held],
    fun (generation : Generation) => ?_⟩
  have learned : ConsumerView.protocol.advance view
      (.loadGeneration index : ExchangeAction Payload) generation =
        { view with hold := .taken index (some generation) } := if_pos held
  rw [learned]
  exact continues generation

/-- The consumer may try to take a ready slot while it holds none. What follows has to keep to the
protocol in both cases. -/
theorem claimReady_bind_follows {rest : Bool → ExchangeProgram Payload Result}
    (held : view.hold = .nothing) (unclaimed : view.claim = none)
    (missed : ConsumerView.protocol.Follows fits view (rest false))
    (taken : ConsumerView.protocol.Follows fits { view with hold := .taken index none }
      (rest true)) :
    ConsumerView.protocol.Follows fits view (claimState index .ready .audioClaimed >>= rest) := by
  refine ⟨⟨held, unclaimed, rfl, rfl⟩, fun (claimed : Bool) => ?_⟩
  cases claimed with
  | false => exact missed
  | true => exact taken

/-- The consumer may put a taken slot back, and then holds none. -/
theorem storeReady_bind_follows {rest : Unit → ExchangeProgram Payload Result}
    {known : Option Generation} (held : view.hold = .taken index known)
    (continues : ConsumerView.protocol.Follows fits { view with hold := .nothing } (rest ())) :
    ConsumerView.protocol.Follows fits view (storeState index .ready >>= rest) :=
  ⟨⟨known, held⟩, fun _ => continues⟩

/-- A slot becomes free only when its owner has read that it is stale. -/
theorem storeStale_bind_follows {rest : Unit → ExchangeProgram Payload Result}
    {generation : Generation} (held : view.hold = .taken index (some generation))
    (stale : generationNewer generation view.activeGeneration = false)
    (continues : ConsumerView.protocol.Follows fits { view with hold := .nothing } (rest ())) :
    ConsumerView.protocol.Follows fits view (storeState index .free >>= rest) := by
  refine ⟨.inl ⟨generation, held, stale⟩, fun _ => ?_⟩
  have released : ConsumerView.protocol.advance view
      (.storeState index .free : ExchangeAction Payload) () = { view with hold := .nothing } := by
    simp [ConsumerView.protocol, ConsumerView.advance, held]
  change ConsumerView.protocol.Follows fits
    (ConsumerView.protocol.advance view (.storeState index .free : ExchangeAction Payload) ())
    (rest ())
  rw [released]
  exact continues

/-- The search for the newest ready slot only loads. -/
theorem findNewestReady_follows (held : view.hold = .nothing) (indices : List (Fin slotCount))
    (selected : Option (Fin slotCount)) (newest : Generation) :
    ConsumerView.protocol.Follows (fun after _ => view = after) view
      (findNewestReady indices selected newest : ExchangeProgram Payload _) := by
  induction indices generalizing selected newest with
  | nil => exact rfl
  | cons index rest ih =>
      refine loadState_bind_follows (by simp [held]) fun state => ?_
      split_ifs
      · exact ih selected newest
      · refine loadGeneration_bind_follows (by simp [held]) (by simp [held]) fun generation => ?_
        split_ifs
        · exact ih _ _
        · exact ih _ _

theorem newerReady_follows {known : Generation} (held : view.hold = .taken index (some known))
    (claimed : Generation) (indices : List (Fin slotCount)) :
    ConsumerView.protocol.Follows (fun after _ => view = after) view
      (newerReady claimed indices : ExchangeProgram Payload _) := by
  induction indices with
  | nil => exact rfl
  | cons next rest ih =>
      refine loadState_bind_follows (by simp [held]) fun state => ?_
      split_ifs
      · refine loadGeneration_bind_follows (by simp [held]) (by simp [held]) fun generation => ?_
        split_ifs
        · exact rfl
        · exact ih
      · exact ih

/-- Reclaiming takes a ready slot, reads its generation as its owner and gives it
back, free only when it is stale. -/
theorem reclaimStaleReady_follows (held : view.hold = .nothing) (unclaimed : view.claim = none)
    (indices : List (Fin slotCount)) :
    ConsumerView.protocol.Follows (fun after _ => view = after) view
      (reclaimStaleReady view.activeGeneration indices : ExchangeProgram Payload _) := by
  have returned : { view with hold := .nothing } = view := by rw [← held]
  induction indices with
  | nil => exact rfl
  | cons index rest ih =>
      refine loadState_bind_follows (by simp [held]) fun state => ?_
      split_ifs
      · exact ih
      · refine claimReady_bind_follows held unclaimed ih ?_
        refine loadOwnGeneration_bind_follows rfl fun generation => ?_
        by_cases newer : generationNewer generation view.activeGeneration = true
        · rw [if_pos newer]
          exact storeReady_bind_follows rfl (returned ▸ ih)
        · rw [if_neg newer]
          exact storeStale_bind_follows rfl (Bool.not_eq_true _ ▸ newer) (returned ▸ ih)

/-- The attempts return true exactly when they have filled the claim. By induction on the attempts.
-/
theorem claimAttempts_follows (held : view.hold = .nothing) (unclaimed : view.claim = none)
    (attempts : Nat) :
    ConsumerView.protocol.Follows
      (fun after result => after = { view with claim := after.claim } ∧
        result = after.claim.isSome)
      view (claimAttempts view.activeGeneration attempts : ExchangeProgram Payload _) := by
  have returned : { view with hold := .nothing } = view := by rw [← held]
  have kept : view = { view with claim := view.claim } ∧ false = view.claim.isSome := by
    exact ⟨rfl, by rw [unclaimed]; rfl⟩
  induction attempts with
  | zero => exact kept
  | succ attempts ih =>
      refine Protocol.follows_bind _
        (findNewestReady_follows held slotOrder none view.activeGeneration) ?_
      rintro _ (_ | selected) rfl
      · refine Protocol.follows_bind _ (reclaimStaleReady_follows held unclaimed slotOrder) ?_
        rintro _ _ rfl
        exact kept
      · refine claimReady_bind_follows held unclaimed ih ?_
        refine loadOwnGeneration_bind_follows rfl fun generation => ?_
        by_cases newer : generationNewer generation view.activeGeneration = true
        · rw [if_pos newer]
          refine Protocol.follows_bind _ (newerReady_follows rfl generation slotOrder) ?_
          rintro _ (_ | _) rfl
          · refine ⟨⟨rfl, unclaimed, newer⟩, fun _ => ⟨?_, rfl⟩⟩
            rw [held]
            rfl
          · exact storeReady_bind_follows rfl (returned ▸ ih)
        · rw [if_neg newer]
          exact storeStale_bind_follows rfl (Bool.not_eq_true _ ▸ newer) (returned ▸ ih)

theorem validateClaim_follows (held : view.hold = .nothing) (claim : Claim) :
    ConsumerView.protocol.Follows (fun after _ => view = after) view
      (validateClaim claim : ExchangeProgram Payload _) := by
  refine loadState_bind_follows (by simp [held]) fun state => ?_
  split_ifs
  · exact rfl
  · exact loadGeneration_bind_follows (by simp [held]) (by simp [held]) fun generation => rfl

/-- The consumer's own fields are as its view has them. -/
def Mirrors (exchange : PreparedConfigExchange Payload) (view : ConsumerView) : Prop :=
  view.activeIndex = exchange.activeIndex ∧ view.activeGeneration = exchange.activeGeneration ∧
    view.claim = exchange.claim

variable {exchange : PreparedConfigExchange Payload}

/-- `claim_latest` returns true exactly when it has filled the claim. -/
theorem claimLatest_claims (mirrors : Mirrors exchange view) (held : view.hold = .nothing)
    (unclaimed : exchange.claim = none) :
    ConsumerView.protocol.Follows
      (fun after result => after = { view with claim := after.claim } ∧
        result = after.claim.isSome)
      view (claimLatest exchange) := by
  have idle : view.claim = none := mirrors.2.2.trans unclaimed
  unfold claimLatest
  split_ifs
  · exact ⟨rfl, by rw [idle]; rfl⟩
  · rw [← mirrors.2.1]
    exact claimAttempts_follows held idle slotCount

/-- The whole of `claim_latest` follows the protocol of the consumer. -/
theorem claimLatest_follows (mirrors : Mirrors exchange view) (held : view.hold = .nothing)
    (unclaimed : exchange.claim = none) :
    ConsumerView.protocol.Follows ConsumerView.fits view (claimLatest exchange) := by
  refine Protocol.follows_mono _ (claimLatest_claims mirrors held unclaimed) ?_
  rintro after result ⟨same, -⟩
  rw [same]
  exact held

/-- The two stores of `commit` exchange the active slot for the claimed one. -/
theorem swap_follows {claim : Claim} (held : view.hold = .nothing)
    (same : index = view.activeIndex) (claimed : view.claim = some claim) :
    ConsumerView.protocol.Follows ConsumerView.fits view (do
      storeState index .free
      let _ ← Program.perform (ExchangeAction.storeActive claim)
      reclaimStaleReady claim.generation slotOrder
      pure true : ExchangeProgram Payload Bool) := by
  refine ⟨.inr ⟨held, same, by rw [claimed]; rfl⟩, fun _ => ?_⟩
  have entered : ConsumerView.protocol.advance view
      (.storeState index .free : ExchangeAction Payload) () = { view with hold := .swapping } := by
    simp [ConsumerView.protocol, ConsumerView.advance, held]
  change ConsumerView.protocol.Follows ConsumerView.fits
    (ConsumerView.protocol.advance view (.storeState index .free : ExchangeAction Payload) ())
    (Program.perform (ExchangeAction.storeActive claim) >>= fun _ => _)
  rw [entered]
  refine Protocol.follows_perform_bind _ ⟨rfl, claimed⟩ fun _ => ?_
  let adopted : ConsumerView :=
    { activeIndex := claim.index, activeGeneration := claim.generation }
  have reclaimed : ConsumerView.protocol.Follows (fun after _ => adopted = after) adopted
      (reclaimStaleReady adopted.activeGeneration slotOrder : ExchangeProgram Payload Unit) :=
    reclaimStaleReady_follows rfl rfl slotOrder
  refine Protocol.follows_bind _ reclaimed ?_
  rintro _ _ rfl
  exact rfl

theorem commit_follows (mirrors : Mirrors exchange view) (held : view.hold = .nothing) :
    ConsumerView.protocol.Follows ConsumerView.fits view (commit exchange) := by
  unfold commit
  cases claimed : exchange.claim with
  | none => exact held
  | some claim =>
      dsimp only
      split_ifs
      · exact held
      · refine Protocol.follows_bind _ (validateClaim_follows held claim) ?_
        rintro _ valid rfl
        split_ifs with committed
        · exact swap_follows held mirrors.1.symm (mirrors.2.2.trans claimed)
        · exact held

theorem cancel_follows (mirrors : Mirrors exchange view) (held : view.hold = .nothing) :
    ConsumerView.protocol.Follows ConsumerView.fits view (cancel exchange) := by
  unfold cancel
  cases claimed : exchange.claim with
  | none => exact held
  | some claim =>
      dsimp only
      split_ifs
      · exact held
      · refine Protocol.follows_bind _ (validateClaim_follows held claim) ?_
        rintro _ (_ | _) rfl
        · exact held
        · exact ⟨⟨held, by rw [mirrors.2.2, claimed]; rfl⟩, fun _ => held⟩

end Consumer

end ExchangeProgram

end M3Midi
