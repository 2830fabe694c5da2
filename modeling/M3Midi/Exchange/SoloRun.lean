import M3Midi.Exchange.Ownership

/-! # Calls that run alone

While no call is under way and no claim is outstanding, every slot is free,
ready or active. A call of `claim_latest` that then runs alone claims the ready
slot of the newest generation, if it is newer than the active one, and otherwise
frees every ready slot.
-/

namespace M3Midi

open Foundation PreparedConfigExchange

variable {Payload : Type}

/-- No slot is in the hands of a call, and no claim is outstanding. -/
structure Resting (exchange : PreparedConfigExchange Payload) : Prop where
  initialized : exchange.initialized = true
  unclaimed : exchange.claim = none
  active : ∀ index, (exchange.slots index).state = .active ↔ index = exchange.activeIndex
  unowned : ∀ index, (exchange.slots index).state ≠ .writing ∧
    (exchange.slots index).state ≠ .audioClaimed

/-- The generations of the ready slots and of the active one lie in one window. -/
structure Windowed (base : Generation) (exchange : PreparedConfigExchange Payload) : Prop where
  active : SerialNumber.InWindow base exchange.activeGeneration
  ready : ∀ index, (exchange.slots index).state = .ready →
    SerialNumber.InWindow base (exchange.slots index).generation

namespace ExchangeProgram

open SerialNumber

variable {exchange : PreparedConfigExchange Payload} {base : Generation}

/-- Within a window, the newer generation is the one that is further from the window's base. -/
theorem generationNewer_iff {candidate reference : Generation} (first : InWindow base candidate)
    (second : InWindow base reference) :
    generationNewer candidate reference = true ↔
      distance base reference < distance base candidate :=
  newer_iff (by decide) first second

/-- A load of a state, run alone, sees the state that is there. -/
theorem run_loadState_bind {Result : Type} (index : Fin slotCount)
    (rest : PreparedSlotState → ExchangeProgram Payload Result) :
    (loadState index >>= rest).run apply exchange =
      (rest (exchange.slots index).state).run apply exchange := rfl

theorem run_loadGeneration_bind {Result : Type} (index : Fin slotCount)
    (rest : Generation → ExchangeProgram Payload Result) :
    (loadGeneration index >>= rest).run apply exchange =
      (rest (exchange.slots index).generation).run apply exchange := rfl

/-- A store of a state, run alone, changes that state only. -/
theorem run_storeState_bind {Result : Type} (index : Fin slotCount) (state : PreparedSlotState)
    (rest : Unit → ExchangeProgram Payload Result) :
    (storeState index state >>= rest).run apply exchange =
      (rest ()).run apply (exchange.setState index state) := rfl

/-- Alone, a compare-and-swap takes a slot that is in the expected state. -/
theorem run_claimState_bind {Result : Type} {index : Fin slotCount}
    {expected : PreparedSlotState} (desired : PreparedSlotState)
    (rest : Bool → ExchangeProgram Payload Result)
    (found : (exchange.slots index).state = expected) :
    (claimState index expected desired >>= rest).run apply exchange =
      (rest true).run apply (exchange.setState index desired) := by
  have taken : (claimState index expected desired).run apply exchange =
      (true, exchange.setState index desired) := by
    change exchange.apply (.claimState index expected desired) = _
    simp only [apply, if_pos found]
    rfl
  rw [Program.run_bind, taken]

/-- The scan returns the best ready slot beyond a first choice. By induction on the slots that
remain. -/
theorem run_findNewestReady (windowed : Windowed base exchange) (indices : List (Fin slotCount))
    (selected : Option (Fin slotCount)) {newest : Generation} (inside : InWindow base newest) :
    ∃ choice, (findNewestReady indices selected newest).run apply exchange = (choice, exchange) ∧
      ((choice = selected ∧ ∀ index ∈ indices, (exchange.slots index).state = .ready →
          distance base (exchange.slots index).generation ≤ distance base newest) ∨
        ∃ index, choice = some index ∧ (exchange.slots index).state = .ready ∧
          distance base newest < distance base (exchange.slots index).generation ∧
          ∀ other ∈ indices, (exchange.slots other).state = .ready →
            distance base (exchange.slots other).generation ≤
              distance base (exchange.slots index).generation) := by
  induction indices generalizing selected newest with
  | nil => exact ⟨selected, rfl, .inl ⟨rfl, by simp⟩⟩
  | cons index rest ih =>
      rw [findNewestReady, run_loadState_bind]
      by_cases ready : (exchange.slots index).state = .ready
      · rw [if_neg (not_not.mpr ready), run_loadGeneration_bind]
        have slotInside := windowed.ready index ready
        by_cases newer : generationNewer (exchange.slots index).generation newest = true
        · rw [if_pos newer]
          have ahead := (generationNewer_iff slotInside inside).mp newer
          obtain ⟨choice, outcome, found | ⟨best, chosen, bestReady, further, bounded⟩⟩ :=
            ih (some index) slotInside
          · refine ⟨choice, outcome, .inr ⟨index, found.1, ready, ahead, ?_⟩⟩
            exact List.forall_mem_cons.mpr ⟨fun _ => le_rfl, found.2⟩
          · refine ⟨choice, outcome, .inr ⟨best, chosen, bestReady, ahead.trans further, ?_⟩⟩
            exact List.forall_mem_cons.mpr ⟨fun _ => further.le, bounded⟩
        · rw [if_neg newer]
          have behind : distance base (exchange.slots index).generation ≤ distance base newest :=
            Nat.not_lt.mp fun ahead => newer ((generationNewer_iff slotInside inside).mpr ahead)
          obtain ⟨choice, outcome, found | ⟨best, chosen, bestReady, further, bounded⟩⟩ :=
            ih selected inside
          · refine ⟨choice, outcome, .inl ⟨found.1, ?_⟩⟩
            exact List.forall_mem_cons.mpr ⟨fun _ => behind, found.2⟩
          · refine ⟨choice, outcome, .inr ⟨best, chosen, bestReady, further, ?_⟩⟩
            exact List.forall_mem_cons.mpr ⟨fun _ => behind.trans further.le, bounded⟩
      · rw [if_pos ready]
        obtain ⟨choice, outcome, found | ⟨best, chosen, bestReady, further, bounded⟩⟩ :=
          ih selected inside
        · refine ⟨choice, outcome, .inl ⟨found.1, ?_⟩⟩
          exact List.forall_mem_cons.mpr ⟨fun found => absurd found ready, found.2⟩
        · refine ⟨choice, outcome, .inr ⟨best, chosen, bestReady, further, ?_⟩⟩
          exact List.forall_mem_cons.mpr ⟨fun found => absurd found ready, bounded⟩

/-- Nothing is newer than a claim that no ready slot is newer than. -/
theorem run_newerReady {claimed : Generation} (indices : List (Fin slotCount))
    (newest : ∀ index ∈ indices, (exchange.slots index).state = .ready →
      generationNewer (exchange.slots index).generation claimed = false) :
    (newerReady claimed indices).run apply exchange = (false, exchange) := by
  induction indices with
  | nil => rfl
  | cons index rest ih =>
      obtain ⟨head, tail⟩ := List.forall_mem_cons.mp newest
      rw [newerReady, run_loadState_bind]
      split_ifs with ready
      · rw [run_loadGeneration_bind, head ready]
        exact ih tail
      · exact ih tail

/-- The last state that is set is the one that stays. -/
theorem setState_setState (index : Fin slotCount) (first second : PreparedSlotState) :
    (exchange.setState index first).setState index second = exchange.setState index second := by
  simp [setState, modifySlot]

/-- To set the state that is there changes nothing. -/
theorem setState_self {index : Fin slotCount} {state : PreparedSlotState}
    (same : (exchange.slots index).state = state) : exchange.setState index state = exchange := by
  subst same
  simp [setState, modifySlot]

/-- Reclaiming alone frees exactly the stale ready slots it visits. By induction on the slots that
remain. -/
theorem run_reclaimStaleReady (activeGeneration : Generation) (indices : List (Fin slotCount)) :
    ((reclaimStaleReady activeGeneration indices).run apply exchange).2 =
      { exchange with
        slots := fun index =>
          if index ∈ indices ∧ (exchange.slots index).state = .ready ∧
              generationNewer (exchange.slots index).generation activeGeneration = false then
            { exchange.slots index with state := .free }
          else exchange.slots index } := by
  induction indices generalizing exchange with
  | nil => simp [reclaimStaleReady]
  | cons index rest ih =>
      rw [reclaimStaleReady, run_loadState_bind]
      by_cases ready : (exchange.slots index).state = .ready
      · rw [if_neg (not_not.mpr ready), run_claimState_bind _ _ ready, if_pos rfl,
          run_loadGeneration_bind, run_storeState_bind, setState_setState, ih]
        have generation := (setState_contents exchange index index .audioClaimed).2
        rw [generation]
        by_cases newer :
            generationNewer (exchange.slots index).generation activeGeneration = true
        · rw [if_pos newer, setState_self ready]
          congr 1
          funext other
          by_cases same : other = index
          · subst same
            simp [newer]
          · simp [same]
        · rw [if_neg newer]
          simp only [setState, modifySlot]
          congr 1
          funext other
          by_cases same : other = index
          · subst same
            simp [ready, newer]
          · simp [same]
      · rw [if_pos ready, ih]
        congr 1
        funext other
        by_cases same : other = index
        · subst same
          simp [ready]
        · simp [same]

/-- At rest, `claim_latest` goes straight to its attempts. -/
private theorem claimLatest_eq (resting : Resting exchange) :
    claimLatest exchange = claimAttempts exchange.activeGeneration (2 + 1) :=
  if_neg (by simp [resting.initialized])

/-- Alone, a resting consumer claims the newest ready slot when it is newer than
the active one. -/
theorem run_claimLatest_newest (resting : Resting exchange) (windowed : Windowed base exchange)
    {newest : Fin slotCount} (ready : (exchange.slots newest).state = .ready)
    (newer : generationNewer (exchange.slots newest).generation exchange.activeGeneration = true)
    (last : ∀ index, (exchange.slots index).state = .ready →
      distance base (exchange.slots index).generation ≤
        distance base (exchange.slots newest).generation) :
    ∃ index, (exchange.slots index).state = .ready ∧
      (exchange.slots index).generation = (exchange.slots newest).generation ∧
      (claimLatest exchange).run apply exchange =
        (true, { exchange.setState index .audioClaimed with
          claim := some ⟨index, (exchange.slots newest).generation⟩ }) := by
  have ahead := (generationNewer_iff (windowed.ready newest ready) windowed.active).mp newer
  obtain ⟨choice, scanned, found | ⟨index, rfl, indexReady, -, bounded⟩⟩ :=
    run_findNewestReady windowed slotOrder none windowed.active
  · exact absurd (found.2 newest (List.mem_finRange newest) ready) (Nat.not_le.mpr ahead)
  · have same : (exchange.slots index).generation = (exchange.slots newest).generation :=
      distance_inj (Nat.le_antisymm (last index indexReady)
        (bounded newest (List.mem_finRange newest) ready))
    refine ⟨index, indexReady, same, ?_⟩
    have generation := (setState_contents exchange index index .audioClaimed).2.trans same
    have unsurpassed : ∀ other ∈ slotOrder,
        ((exchange.setState index .audioClaimed).slots other).state = .ready →
          generationNewer ((exchange.setState index .audioClaimed).slots other).generation
            (exchange.slots newest).generation = false := by
      intro other _ otherReady
      rw [(setState_contents exchange index other .audioClaimed).2]
      rw [setState_slots] at otherReady
      split_ifs at otherReady
      rw [← Bool.not_eq_true, generationNewer_iff (windowed.ready other otherReady)
        (windowed.ready newest ready), Nat.not_lt]
      exact last other otherReady
    rw [claimLatest_eq resting, claimAttempts, Program.run_bind, scanned]
    dsimp only
    rw [run_claimState_bind _ _ indexReady, if_pos rfl, run_loadGeneration_bind, generation,
      if_pos newer, Program.run_bind, run_newerReady slotOrder unsurpassed]
    rfl

/-- Alone, a resting consumer without a newer ready slot frees all ready slots. -/
theorem run_claimLatest_stale (resting : Resting exchange) (windowed : Windowed base exchange)
    (stale : ∀ index, (exchange.slots index).state = .ready →
      generationNewer (exchange.slots index).generation exchange.activeGeneration = false) :
    (claimLatest exchange).run apply exchange =
      (false, { exchange with
        slots := fun index =>
          if (exchange.slots index).state = .ready then { exchange.slots index with state := .free }
          else exchange.slots index }) := by
  obtain ⟨choice, scanned, ⟨rfl, -⟩ | ⟨index, rfl, ready, ahead, -⟩⟩ :=
    run_findNewestReady windowed slotOrder none windowed.active
  · rw [claimLatest_eq resting, claimAttempts, Program.run_bind, scanned]
    dsimp only
    rw [Program.run_bind, run_reclaimStaleReady, Program.run_pure]
    congr 2
    funext index
    by_cases ready : (exchange.slots index).state = .ready
    · rw [if_pos ⟨List.mem_finRange index, ready, stale index ready⟩, if_pos ready]
    · rw [if_neg fun found => ready found.2.1, if_neg ready]
  · have newer := (generationNewer_iff (windowed.ready index ready) windowed.active).mpr ahead
    exact absurd newer (by simp [stale index ready])

end ExchangeProgram

end M3Midi
