import M3Midi.Foundation.RelyGuarantee
import M3Midi.Exchange.Calls
import Mathlib.Data.Fintype.Option

/-! # What a publish call meets

The producer scans for a free slot and then for a ready one. The consumer never takes a
free slot, and of the three slots one is always free or ready, so that an undisturbed
attempt succeeds. A call returns false only when the consumer has taken a ready slot
from under it; then it has written nothing.
-/

namespace M3Midi

open Foundation PreparedConfigExchange

variable {Payload : Type}

namespace PreparedConfigExchange

variable {first second third : PreparedConfigExchange Payload}

/-- Free slots stay free, and ready ones ready. -/
def Leaves (first second : PreparedConfigExchange Payload) : Prop :=
  ∀ index, ∀ state, state = .free ∨ state = .ready →
    (first.slots index).state = state → (second.slots index).state = state

theorem Leaves.refl (exchange : PreparedConfigExchange Payload) : Leaves exchange exchange :=
  fun _ _ _ => id

theorem Leaves.trans (before : Leaves first second) (after : Leaves second third) :
    Leaves first third :=
  fun index state kind found => after index state kind (before index state kind found)

/-- The slots' contents, and the generation of the last publish, are the same. -/
def SameContents (first second : PreparedConfigExchange Payload) : Prop :=
  second.publisherGeneration = first.publisherGeneration ∧
    ∀ index, (second.slots index).prepared = (first.slots index).prepared ∧
      (second.slots index).generation = (first.slots index).generation

theorem SameContents.refl (exchange : PreparedConfigExchange Payload) :
    SameContents exchange exchange := ⟨rfl, fun _ => ⟨rfl, rfl⟩⟩

theorem SameContents.trans (before : SameContents first second)
    (after : SameContents second third) : SameContents first third :=
  ⟨after.1.trans before.1, fun index =>
    ⟨(after.2 index).1.trans (before.2 index).1, (after.2 index).2.trans (before.2 index).2⟩⟩

/-- A change of a slot's state is no change of what it contains. -/
theorem SameContents.claimState (exchange : PreparedConfigExchange Payload)
    (index : Fin slotCount) (expected desired : PreparedSlotState) :
    SameContents exchange (exchange.apply (.claimState index expected desired)).2 := by
  simp only [apply]
  split_ifs
  · exact ⟨rfl, fun other => setState_contents exchange index other desired⟩
  · exact .refl exchange

end PreparedConfigExchange

namespace ExchangeProgram

section Loads

variable {Result : Type} {exchange : PreparedConfigExchange Payload} {index : Fin slotCount}
  {rely : PreparedConfigExchange Payload → PreparedConfigExchange Payload → Prop}
  {fits : Result → PreparedConfigExchange Payload → Prop}

/-- After a state has been loaded, whatever the others have done meanwhile, the rest goes on with
the state it saw. -/
theorem loadState_bind_establishes {rest : PreparedSlotState → ExchangeProgram Payload Result}
    (continues : ∀ later, rely exchange later →
      (rest (later.slots index).state).Establishes apply rely fits later) :
    (loadState index >>= rest).Establishes apply rely fits exchange := continues

theorem loadGeneration_bind_establishes {rest : Generation → ExchangeProgram Payload Result}
    (continues : ∀ later, rely exchange later →
      (rest (later.slots index).generation).Establishes apply rely fits later) :
    (loadGeneration index >>= rest).Establishes apply rely fits exchange := continues

end Loads

section Undisturbed

/-- A slot in a state that the consumer leaves alone, unless it takes it. -/
def Offered (exchange : PreparedConfigExchange Payload) (index : Fin slotCount)
    (state : PreparedSlotState) : Prop :=
  (state = .free ∨ state = .ready) ∧ (exchange.slots index).state = state

/-- What has been offered stays offered as long as the others leave it. -/
theorem Offered.later {exchange later : PreparedConfigExchange Payload} {index : Fin slotCount}
    {state : PreparedSlotState} (offered : Offered exchange index state)
    (leaves : Leaves exchange later) : Offered later index state :=
  ⟨offered.1, leaves index state offered.1 offered.2⟩

/-- The first scan finds a free slot, unless it leaves a ready one for the second. -/
theorem findFree_establishes (indices : List (Fin slotCount))
    {exchange : PreparedConfigExchange Payload}
    (found : (∃ index ∈ indices, Offered exchange index .free) ∨
      ∃ index, Offered exchange index .ready) :
    (findFree indices).Establishes apply Leaves
      (fun choice later => match choice with
        | some index => Offered later index .free
        | none => ∃ index, Offered later index .ready) exchange := by
  induction indices generalizing exchange with
  | nil =>
      intro later leaves
      rcases found with ⟨index, member, -⟩ | ⟨index, offered⟩
      · exact absurd member List.not_mem_nil
      · exact ⟨index, offered.later leaves⟩
  | cons first rest ih =>
      refine loadState_bind_establishes fun later leaves => ?_
      split_ifs with free
      · exact fun last after => Offered.later ⟨.inl rfl, free⟩ after
      · refine ih ?_
        rcases found with ⟨index, member, offered⟩ | ⟨index, offered⟩
        · have kept := offered.later leaves
          rcases List.mem_cons.mp member with rfl | member
          · exact absurd kept.2 free
          · exact .inl ⟨index, member, kept⟩
        · exact .inr ⟨index, offered.later leaves⟩

/-- The second scan finds a ready slot when one is left to scan. -/
theorem findOldestReady_establishes (indices : List (Fin slotCount))
    (oldest : Option (Fin slotCount × Generation)) {exchange : PreparedConfigExchange Payload}
    (before : ∀ index generation, oldest = some (index, generation) →
      Offered exchange index .ready)
    (found : oldest.isSome = true ∨ ∃ index ∈ indices, Offered exchange index .ready) :
    (findOldestReady indices oldest).Establishes apply Leaves
      (fun choice later => ∃ index generation, choice = some (index, generation) ∧
        Offered later index .ready) exchange := by
  induction indices generalizing oldest exchange with
  | nil =>
      intro later leaves
      rcases found with some_ | ⟨index, member, -⟩
      · obtain ⟨⟨index, generation⟩, rfl⟩ := Option.isSome_iff_exists.mp some_
        exact ⟨index, generation, rfl, (before index generation rfl).later leaves⟩
      · exact absurd member List.not_mem_nil
  | cons first rest ih =>
      refine loadState_bind_establishes fun later leaves => ?_
      have kept (index : Fin slotCount) (generation : Generation)
          (selected : oldest = some (index, generation)) : Offered later index .ready :=
        (before index generation selected).later leaves
      split_ifs with passed
      · refine ih oldest kept ?_
        rcases found with some_ | ⟨index, member, offered⟩
        · exact .inl some_
        · have still := offered.later leaves
          rcases List.mem_cons.mp member with rfl | member
          · exact absurd still.2 passed
          · exact .inr ⟨index, member, still⟩
      · rw [not_not] at passed
        have ready : Offered later first .ready := ⟨.inr rfl, passed⟩
        refine loadGeneration_bind_establishes fun last after => ?_
        have here (generation : Generation) (index : Fin slotCount) (other : Generation)
            (same : some (first, generation) = some (index, other)) :
            Offered last index .ready := by
          obtain ⟨rfl, -⟩ := Prod.mk.inj (Option.some.inj same)
          exact ready.later after
        cases oldest with
        | none => exact ih _ (here _) (.inl rfl)
        | some selected =>
            obtain ⟨index, generation⟩ := selected
            dsimp only
            split_ifs
            · exact ih _ (here _) (.inl rfl)
            · exact ih _ (fun other tag same => (kept other tag same).later after) (.inl rfl)

/-- An attempt selects a slot that is still as it was seen. -/
theorem selectPublishSlot_establishes {exchange : PreparedConfigExchange Payload}
    (found : ∃ index state, Offered exchange index state) :
    (selectPublishSlot : ExchangeProgram Payload _).Establishes apply Leaves
      (fun choice later => ∃ index state, choice = some (index, state) ∧
        Offered later index state) exchange := by
  have some_ : (∃ index ∈ slotOrder, Offered exchange index .free) ∨
      ∃ index, Offered exchange index .ready := by
    obtain ⟨index, state, rfl | rfl, same⟩ := found
    · exact .inl ⟨index, List.mem_finRange index, .inl rfl, same⟩
    · exact .inr ⟨index, .inr rfl, same⟩
  refine Program.establishes_bind Leaves.refl (findFree_establishes slotOrder some_) ?_
  rintro (_ | index) later offered
  · obtain ⟨index, ready⟩ := offered
    refine Program.establishes_bind Leaves.refl (findOldestReady_establishes slotOrder none
      (fun _ _ none => nomatch none) (.inr ⟨index, List.mem_finRange index, ready⟩)) ?_
    rintro _ last ⟨index, generation, rfl, ready⟩
    exact fun final leaves => ⟨index, .ready, rfl, ready.later leaves⟩
  · exact fun final leaves => ⟨index, .free, rfl, Offered.later offered leaves⟩

/-- A call succeeds at its first attempt when nothing is taken from under it. -/
theorem publishAttempts_establishes (prepared : Payload) (generation : Generation)
    (attempts : Nat) {exchange : PreparedConfigExchange Payload}
    (found : ∃ index state, Offered exchange index state) :
    (publishAttempts prepared generation (attempts + 1)).Establishes apply Leaves
      (fun published _ => published = true) exchange := by
  refine Program.establishes_bind Leaves.refl (selectPublishSlot_establishes found) ?_
  rintro _ later ⟨index, state, rfl, offered⟩
  refine Program.establishes_perform_bind fun last leaves => ?_
  have taken : last.apply (.claimState index state .writing) =
      (true, last.setState index .writing) := if_pos (offered.later leaves).2
  rw [taken]
  exact fun _ _ _ _ _ _ _ _ => rfl

end Undisturbed

section Untouched

variable {origin exchange : PreparedConfigExchange Payload}

/-- The search for a free slot changes no contents, whether it takes one or not. -/
theorem findFree_contents (indices : List (Fin slotCount)) (same : SameContents origin exchange) :
    (findFree indices).Establishes apply SameContents
      (fun _ later => SameContents origin later) exchange := by
  induction indices generalizing exchange with
  | nil => exact fun later others => same.trans others
  | cons first rest ih =>
      refine loadState_bind_establishes fun later others => ?_
      split_ifs
      · exact fun last after => (same.trans others).trans after
      · exact ih (same.trans others)

/-- The search for the oldest slot only loads. -/
theorem findOldestReady_contents (indices : List (Fin slotCount))
    (oldest : Option (Fin slotCount × Generation)) (same : SameContents origin exchange) :
    (findOldestReady indices oldest).Establishes apply SameContents
      (fun _ later => SameContents origin later) exchange := by
  induction indices generalizing oldest exchange with
  | nil => exact fun later others => same.trans others
  | cons first rest ih =>
      refine loadState_bind_establishes fun later others => ?_
      split_ifs
      · exact ih _ (same.trans others)
      · refine loadGeneration_bind_establishes fun last after => ?_
        have kept := (same.trans others).trans after
        cases oldest with
        | none => exact ih _ kept
        | some selected =>
            dsimp only
            split_ifs
            · exact ih _ kept
            · exact ih _ kept

/-- The choice of a slot changes no contents, but at most the state of the slot that it takes. -/
theorem selectPublishSlot_contents (same : SameContents origin exchange) :
    (selectPublishSlot : ExchangeProgram Payload _).Establishes apply SameContents
      (fun _ later => SameContents origin later) exchange := by
  refine Program.establishes_bind SameContents.refl (findFree_contents slotOrder same) ?_
  rintro (_ | index) later kept
  · refine Program.establishes_bind SameContents.refl
      (findOldestReady_contents slotOrder none kept) ?_
    rintro (_ | selected) last still
    · exact fun final others => still.trans others
    · exact fun final others => still.trans others
  · exact fun final others => kept.trans others

/-- A call that fails has written nothing. -/
theorem publishAttempts_contents (prepared : Payload) (generation : Generation)
    (attempts : Nat) (same : SameContents origin exchange) :
    (publishAttempts prepared generation attempts).Establishes apply SameContents
      (fun published later => published = false → SameContents origin later) exchange := by
  induction attempts generalizing exchange with
  | zero => exact fun later others _ => same.trans others
  | succ attempts ih =>
      refine Program.establishes_bind SameContents.refl (selectPublishSlot_contents same) ?_
      rintro (_ | ⟨selected, expected⟩) later kept
      · exact fun last others _ => kept.trans others
      · refine Program.establishes_perform_bind fun last others => ?_
        have claimed := (kept.trans others).trans
          (SameContents.claimState last selected expected .writing)
        cases answered : last.apply (.claimState selected expected .writing) with
        | mk answer next =>
            rw [answered] at claimed
            cases answer with
            | false => exact ih claimed
            | true => exact fun _ _ _ _ _ _ _ _ fails => nomatch fails

end Untouched

section Bounds

/-- The search for a free slot takes at most one step for each slot. -/
theorem findFree_within (indices : List (Fin slotCount)) :
    (findFree indices : ExchangeProgram Payload _).Within indices.length := by
  induction indices with
  | nil => trivial
  | cons first rest ih =>
      refine Program.within_perform_bind fun state => ?_
      split_ifs
      · exact Program.Within.mono (Nat.zero_le _) trivial
      · exact ih

/-- The search for the oldest slot takes at most two steps for each slot. -/
theorem findOldestReady_within (indices : List (Fin slotCount))
    (oldest : Option (Fin slotCount × Generation)) :
    (findOldestReady indices oldest : ExchangeProgram Payload _).Within (2 * indices.length) := by
  induction indices generalizing oldest with
  | nil => trivial
  | cons first rest ih =>
      rw [List.length_cons, Nat.mul_succ]
      refine Program.within_perform_bind fun state => ?_
      split_ifs
      · exact (ih _).mono (Nat.le_succ _)
      · refine Program.within_perform_bind fun generation => ?_
        cases oldest with
        | none => exact ih _
        | some selected =>
            dsimp only
            split_ifs
            · exact ih _
            · exact ih _

/-- Nine loads at most select a slot. -/
theorem selectPublishSlot_within :
    (selectPublishSlot : ExchangeProgram Payload _).Within 9 := by
  refine @Program.within_bind _ _ _ _ 3 6 _ _ (findFree_within slotOrder) ?_
  rintro (_ | index)
  · refine @Program.within_bind _ _ _ _ 6 0 _ _ (findOldestReady_within slotOrder none) ?_
    rintro (_ | selected) <;> trivial
  · trivial

/-- An attempt that fails takes ten actions at most, and one that succeeds thirteen. -/
theorem publishAttempts_within (prepared : Payload) (generation : Generation)
    (attempts : Nat) :
    (publishAttempts prepared generation attempts).Within (10 * attempts + 3) := by
  induction attempts with
  | zero => trivial
  | succ attempts ih =>
      have bound : 10 * (attempts + 1) + 3 = 9 + (10 * attempts + 3 + 1) := by omega
      rw [bound]
      refine Program.within_bind selectPublishSlot_within ?_
      rintro (_ | ⟨selected, expected⟩)
      · trivial
      · refine Program.within_perform_bind ?_
        rintro (_ | _)
        · exact ih
        · exact Program.Within.mono (Nat.le_add_left 3 _) fun _ _ _ => trivial

end Bounds

end ExchangeProgram

namespace Owned

variable {exchange : PreparedConfigExchange Payload} {calls : List (Payload × Generation)}
  {producer : ProducerView Payload} {consumer : ConsumerView}

/-- Outside the producer's own writing, some slot is free or ready. -/
theorem offered (owned : Owned exchange calls producer consumer) (unowned : producer.slot = none) :
    ∃ index state, ExchangeProgram.Offered exchange index state := by
  have spare (held active : Option (Fin slotCount)) :
      ∃ index, held ≠ some index ∧ active ≠ some index := by
    revert held active
    decide
  obtain ⟨index, unclaimed, inactive⟩ := spare consumer.slot consumer.activeSlot
  refine ⟨index, (exchange.slots index).state, ?_, rfl⟩
  cases found : (exchange.slots index).state with
  | free => exact .inl rfl
  | ready => exact .inr rfl
  | writing => exact absurd ((owned.writing index).mp found) (by simp [unowned])
  | audioClaimed => exact absurd ((owned.claimed index).mp found) unclaimed
  | active => exact absurd ((owned.active index).mp found) inactive

/-- Every action of the consumer but the taking of a ready slot leaves the producer's
choices alone. -/
theorem consumer_leaves (owned : Owned exchange calls producer consumer)
    {action : ExchangeAction Payload} (allowed : consumer.allows action)
    (untaken : ∀ index expected desired, action = .claimState index expected desired →
      (exchange.slots index).state ≠ expected) :
    Leaves exchange (exchange.apply action).2 := by
  have changed {index : Fin slotCount} {state : PreparedSlotState}
      (held : (exchange.slots index).state = .audioClaimed ∨
        (exchange.slots index).state = .active) :
      Leaves exchange (exchange.setState index state) := by
    intro other kind known found
    rw [setState_slots]
    split_ifs with same
    · subst same
      rw [found] at held
      rcases known with rfl | rfl <;> exact absurd held (by simp)
    · exact found
  cases action with
  | loadState | loadGeneration | fillClaim => exact Leaves.refl exchange
  | claimState index expected desired =>
      have refused := untaken index expected desired rfl
      rw [apply, if_neg refused]
      exact Leaves.refl exchange
  | storeState index state =>
      refine changed ?_
      cases state with
      | ready =>
          obtain ⟨known, taken⟩ := allowed
          exact .inl ((owned.claimed index).mpr (by rw [ConsumerView.slot, taken]))
      | free =>
          rcases allowed with ⟨generation, taken, -⟩ | ⟨idle, active, -⟩
          · exact .inl ((owned.claimed index).mpr (by rw [ConsumerView.slot, taken]))
          · refine .inr ((owned.active index).mpr ?_)
            rw [ConsumerView.activeSlot, idle, active]
            rfl
      | _ => exact absurd allowed id
  | storeActive claim =>
      have held : Leaves exchange (exchange.setState claim.index .active) :=
        changed (.inl ((owned.claimed claim.index).mpr (by
          rw [ConsumerView.slot, allowed.1, allowed.2]
          rfl)))
      exact held
  | storeReturned index =>
      have held : Leaves exchange (exchange.setState index .ready) :=
        changed (.inl ((owned.claimed index).mpr (by
          rw [ConsumerView.slot, allowed.1]
          exact allowed.2)))
      exact held
  | writePrepared | storeGeneration | storePublished => exact absurd allowed id

/-- No action of the consumer changes a content. -/
theorem consumer_contents {action : ExchangeAction Payload} (allowed : consumer.allows action) :
    SameContents exchange (exchange.apply action).2 := by
  refine ⟨?_, fun index => consumer_apply_contents allowed index⟩
  cases action with
  | claimState index expected desired =>
      simp only [PreparedConfigExchange.apply]
      split_ifs <;> rfl
  | storePublished => exact absurd allowed id
  | _ => rfl

end Owned

namespace ExchangeSystem

/-- The consumer takes a slot for itself: its compare-and-swap succeeds. -/
def Takes (system : ExchangeSystem Payload) : ExchangeEvent Payload → Prop
  | .consumerStep => ∃ index next, (system.exchange.slots index).state = .ready ∧
      system.consumer = .act (.claimState index .ready .audioClaimed) next
  | _ => False

/-- The event starts no call of the producer. -/
def Continues : ExchangeEvent Payload → Prop
  | .publish _ _ => False
  | _ => True

/-- The event is a step of the producer. -/
def isProducerStep : ExchangeEvent Payload → Bool
  | .producerStep => true
  | _ => false

variable {system : ExchangeSystem Payload} {producer : ProducerView Payload}
  {consumer : ConsumerView}

/-- No event takes the exchange out of use. -/
theorem step_initialized (system : ExchangeSystem Payload) (event : ExchangeEvent Payload) :
    (system.step event).exchange.initialized = system.exchange.initialized := by
  cases event with
  | producerStep | consumerStep =>
      dsimp only [step]
      split
      · rfl
      · exact apply_initialized _ _
  | publish | claimLatest | commit | cancel =>
      dsimp only [step]
      split <;> rfl

/-- What the producer's call establishes, it still establishes after an event in which
the consumer keeps to the rely. -/
theorem step_establishes
    {rely : PreparedConfigExchange Payload → PreparedConfigExchange Payload → Prop}
    {fits : Bool → PreparedConfigExchange Payload → Prop} (refl : ∀ state, rely state state)
    (trans : ∀ first second third, rely first second → rely second third → rely first third)
    (establishes : system.producer.Establishes apply rely fits system.exchange)
    {event : ExchangeEvent Payload} (continues : Continues event)
    (keeps : ∀ action next, event = .consumerStep → system.consumer = .act action next →
      rely system.exchange (system.exchange.apply action).2) :
    (system.step event).producer.Establishes apply rely fits (system.step event).exchange := by
  cases event with
  | publish => exact absurd continues id
  | producerStep =>
      dsimp only [step]
      split
      · exact establishes
      · rename_i action next pending
        rw [pending] at establishes
        exact establishes.act refl
  | consumerStep =>
      dsimp only [step]
      split
      · exact establishes
      · rename_i action next pending
        have others := keeps action next rfl pending
        have kept : system.producer.Establishes apply rely fits (system.exchange.apply action).2 :=
          establishes.stable trans others
        exact kept
  | claimLatest | commit | cancel =>
      dsimp only [step]
      split <;> exact establishes

/-- A call that nothing is taken from goes on to succeed. -/
theorem step_untaken (safe : Safe system producer consumer)
    (establishes : system.producer.Establishes apply Leaves (fun published _ => published = true)
      system.exchange)
    {event : ExchangeEvent Payload} (continues : Continues event)
    (untaken : ¬system.Takes event) :
    (system.step event).producer.Establishes apply Leaves (fun published _ => published = true)
      (system.step event).exchange := by
  refine step_establishes Leaves.refl (fun _ _ _ => Leaves.trans) establishes continues fun action next same
    pending => ?_
  subst same
  have follows := safe.consumer_follows
  rw [pending] at follows
  refine safe.owned.consumer_leaves follows.1 ?_
  rintro index expected desired rfl found
  obtain ⟨-, -, rfl, rfl⟩ := follows.1
  exact untaken ⟨index, next, found, pending⟩

/-- A call that has not written goes on to write nothing unless it succeeds. -/
theorem step_contents (safe : Safe system producer consumer)
    {fits : Bool → PreparedConfigExchange Payload → Prop}
    (establishes : system.producer.Establishes apply SameContents fits system.exchange)
    {event : ExchangeEvent Payload} (continues : Continues event) :
    (system.step event).producer.Establishes apply SameContents fits
      (system.step event).exchange := by
  refine step_establishes SameContents.refl (fun _ _ _ => SameContents.trans) establishes continues
    fun action next same pending => ?_
  have follows := safe.consumer_follows
  rw [pending] at follows
  exact Owned.consumer_contents follows.1

/-- A call ends within its bound of steps, whatever the consumer does. By induction on the steps,
since every access is one of them. -/
theorem run_within {bound : Nat} {events : List (ExchangeEvent Payload)}
    (within : system.producer.Within bound) (continues : ∀ event ∈ events, Continues event)
    (steps : bound ≤ events.countP isProducerStep) :
    (machine.run system events).1.producer.IsDone := by
  induction events generalizing system bound with
  | nil =>
      obtain rfl : bound = 0 := Nat.le_zero.mp steps
      change system.producer.IsDone
      cases pending : system.producer with
      | done result => trivial
      | act action next =>
          rw [pending] at within
          exact within
  | cons event events ih =>
      have later : ∀ other ∈ events, Continues other :=
        fun other member => continues other (List.mem_cons_of_mem event member)
      have here := continues event (List.mem_cons_self ..)
      cases event with
      | publish => exact absurd here id
      | producerStep =>
          rw [List.countP_cons_of_pos rfl] at steps
          refine @ih _ (bound - 1) ?_ later (by omega)
          change (system.step .producerStep).producer.Within (bound - 1)
          dsimp only [step]
          cases pending : system.producer with
          | done result =>
              rw [pending]
              cases bound - 1 <;> trivial
          | act action next =>
              rw [pending] at within
              cases bound with
              | zero => exact absurd within id
              | succ bound => exact within _
      | claimLatest | commit | cancel | consumerStep =>
          rw [List.countP_cons_of_neg (by simp [isProducerStep])] at steps
          refine @ih _ bound ?_ later steps
          change (system.step _).producer.Within bound
          dsimp only [step]
          split <;> exact within

/-- What holds while a call of `publish` runs: it goes on to succeed unless something
has been taken from it, and unless it succeeds it writes nothing. -/
structure Publishing (origin : PreparedConfigExchange Payload) (taken : Prop)
    (system : ExchangeSystem Payload) : Prop where
  safe : ∃ producer consumer, Safe system producer consumer
  succeeds : taken ∨ system.producer.Establishes apply Leaves
    (fun published _ => published = true) system.exchange
  writes : system.producer.Establishes apply SameContents
    (fun published later => published = false → SameContents origin later) system.exchange

/-- A publication of a newer generation begins, with nothing taken from it so far. -/
theorem Publishing.start {system : ExchangeSystem Payload}
    (safe : ∃ producer consumer, Safe system producer consumer)
    (initialized : system.exchange.initialized = true) (returned : system.producer.IsDone)
    {prepared : Payload} {generation : Generation}
    (newer : generationNewer generation system.exchange.publisherGeneration = true) :
    Publishing system.exchange False (system.step (.publish prepared generation)) ∧
      (system.step (.publish prepared generation)).producer =
        ExchangeProgram.publishAttempts prepared generation slotCount := by
  obtain ⟨producer, consumer, safe⟩ := safe
  have next := safe_publish safe prepared generation
  have follows := safe.producer_follows
  cases idle : system.producer with
  | act action next => rw [idle] at returned; exact absurd returned id
  | done result =>
      rw [idle] at follows
      have unowned : producer.slot = none := by
        cases producer <;> first | rfl | exact absurd follows id
      have called : system.step (.publish prepared generation) = { system with
          producer := ExchangeProgram.publishAttempts prepared generation slotCount
          calls := (prepared, generation) :: system.calls } := by
        dsimp only [step]
        rw [idle]
        dsimp only
        rw [ExchangeProgram.publish, if_neg (by simp [initialized, newer])]
      rw [called] at next ⊢
      obtain ⟨view, safely⟩ := next
      refine ⟨⟨⟨view, consumer, safely⟩, .inr ?_, ?_⟩, rfl⟩
      · exact ExchangeProgram.publishAttempts_establishes prepared generation 2
          (safe.owned.offered unowned)
      · exact ExchangeProgram.publishAttempts_contents prepared generation slotCount
          (SameContents.refl system.exchange)

/-- A step of either party carries the publication on. The consumer may take a slot meanwhile, and
this is noted. -/
theorem Publishing.step {origin : PreparedConfigExchange Payload} {taken : Prop}
    (publishing : Publishing origin taken system) {event : ExchangeEvent Payload}
    (continues : Continues event) :
    Publishing origin (taken ∨ system.Takes event) (system.step event) := by
  obtain ⟨producer, consumer, safe⟩ := publishing.safe
  refine ⟨safe_step safe event, ?_, step_contents safe publishing.writes continues⟩
  by_cases takes : system.Takes event
  · exact .inl (.inr takes)
  · rcases publishing.succeeds with taken | establishes
    · exact .inl (.inl taken)
    · exact .inr (step_untaken safe establishes continues takes)

/-- In the run, the consumer takes a slot. -/
def TakesDuring (system : ExchangeSystem Payload) (events : List (ExchangeEvent Payload)) : Prop :=
  ∃ earlier event later, events = earlier ++ event :: later ∧
    (machine.run system earlier).1.Takes event

theorem Publishing.run {origin : PreparedConfigExchange Payload}
    (publishing : Publishing origin False system) (events : List (ExchangeEvent Payload))
    (continues : ∀ event ∈ events, Continues event) :
    Publishing origin (TakesDuring system events) (machine.run system events).1 := by
  induction events using List.reverseRecOn with
  | nil =>
      refine ⟨publishing.safe, .inr ?_, publishing.writes⟩
      exact publishing.succeeds.resolve_left id
  | append_singleton events event ih =>
      have before := ih fun other member => continues other (List.mem_append_left _ member)
      have after := before.step (continues event
        (List.mem_append_right _ (List.mem_singleton_self event)))
      rw [machine.run_concat]
      refine ⟨after.safe, ?_, after.writes⟩
      rcases after.succeeds with (⟨earlier, other, later, split, takes⟩ | takes) | establishes
      · refine .inl ⟨earlier, other, later ++ [event], ?_, takes⟩
        rw [split, List.append_assoc, List.cons_append]
      · exact .inl ⟨events, event, [], rfl, takes⟩
      · exact .inr establishes

/-- **A publish call fails only under a take.** In every interleaving, a call of `publish`
with a generation newer than the last one returns within thirty-three steps of its own.
When it returns false, the consumer has taken a ready slot while it ran, and the call
has changed no slot's contents and not the generation of the last publish. -/
theorem reach_publish_progress (before : PreparedConfigExchange Payload) (initial : Payload)
    (generation : Generation) (events : List (ExchangeEvent Payload)) (call : Payload × Generation)
    (during : List (ExchangeEvent Payload))
    (returned : (reach before initial generation events).producer.IsDone)
    (newer : generationNewer call.2
      (reach before initial generation events).exchange.publisherGeneration = true)
    (continues : ∀ event ∈ during, Continues event) :
    let start := reach before initial generation events
    let called := start.step (.publish call.1 call.2)
    let final := (machine.run called during).1
    (33 ≤ during.countP isProducerStep → final.producer.IsDone) ∧
      (final.producer = .done false →
        TakesDuring called during ∧ SameContents start.exchange final.exchange) := by
  intro start called final
  have initialized : start.exchange.initialized = true :=
    machine.run_preserves (fun system event kept => (step_initialized system event).trans kept)
      rfl events
  obtain ⟨publishing, program⟩ :=
    Publishing.start (safe_reach before initial generation events) initialized returned newer
  refine ⟨fun steps => ?_, fun failed => ?_⟩
  · have within : called.producer.Within 33 := by
      rw [program]
      exact ExchangeProgram.publishAttempts_within call.1 call.2 slotCount
    exact run_within within continues steps
  · have ended := publishing.run during continues
    have writes := ended.writes
    rw [failed] at writes
    refine ⟨ended.succeeds.resolve_right fun succeeds => ?_,
      writes final.exchange (SameContents.refl _) rfl⟩
    rw [failed] at succeeds
    exact absurd (succeeds final.exchange (Leaves.refl _)) (by simp)

/-- An exchange with one slot claimed and one ready: the consumer has claimed the first
publish before the second. -/
def claimedAndReady : List (ExchangeEvent Nat) :=
  .publish 1 1 :: List.replicate 6 .producerStep ++ .claimLatest ::
    List.replicate 20 .consumerStep ++ .publish 2 2 :: List.replicate 9 .producerStep

/-- The consumer commits between the two scans of a call, and takes the ready slot while
it looks for stale ones. -/
def commitBetweenScans : List (ExchangeEvent Nat) :=
  List.replicate 3 .producerStep ++ .commit :: List.replicate 8 .consumerStep ++
    List.replicate 3 .producerStep

/-- A call in which the consumer commits between the two scans finds no slot, although
one is free and another one is about to be ready again. -/
theorem reach_publish_refused :
    ∃ (events during : List (ExchangeEvent Nat)) (call : Nat × Generation),
      let start := reach { slots := fun _ => { prepared := 0 } } 0 0 events
      let final := (machine.run (start.step (.publish call.1 call.2)) during).1
      start.producer = .done true ∧ start.exchange.initialized = true ∧
        generationNewer call.2 start.exchange.publisherGeneration = true ∧
        (∀ event ∈ during, Continues event) ∧ final.producer = .done false ∧
        (final.exchange.slots 0).state = .free := by
  refine ⟨claimedAndReady, commitBetweenScans, (3, 3),
    Program.returned_eq_some (by decide +kernel), by decide +kernel, by decide +kernel, ?_,
    Program.returned_eq_some (by decide +kernel), by decide +kernel⟩
  simp [commitBetweenScans, Continues]

/-- In that call the consumer has taken a slot, and nothing has been written. -/
theorem reach_publish_progress_refused :
    let start := reach { slots := fun _ => { prepared := 0 } } 0 0 claimedAndReady
    let called := start.step (.publish 3 3)
    TakesDuring called commitBetweenScans ∧
      SameContents start.exchange (machine.run called commitBetweenScans).1.exchange := by
  have idle : (reach { slots := fun _ => { prepared := 0 } } 0 0 claimedAndReady).producer =
      .done true := Program.returned_eq_some (by decide +kernel)
  refine (reach_publish_progress { slots := fun _ => { prepared := 0 } } 0 0 claimedAndReady (3, 3)
    commitBetweenScans ?_ (by decide +kernel) (by simp [commitBetweenScans, Continues])).2
    (Program.returned_eq_some (by decide +kernel))
  rw [idle]
  trivial

end ExchangeSystem

end M3Midi
