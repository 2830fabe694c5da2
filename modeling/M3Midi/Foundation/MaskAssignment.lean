import M3Midi.Foundation.MaskSweep
import Mathlib.Data.Fintype.Card

/-! # Assignments of lanes

Every item takes a lane, one after the other, and no lane is taken twice. From the table
with one state for each mask of used lanes a new table is made for every item, and a cell
keeps the cheapest state. The cheapest state of the last table then costs no more than any
assignment, and there is none exactly when nothing can be assigned
(`M3Midi.Foundation.MaskAssignment.Lawful.solved_eq`).
-/

namespace M3Midi.Foundation

open LaneMask MaskSweep ProposalTable

/-- The lanes of each item, and what a state makes of them. Items are placed one after the other,
each on one lane that is free. -/
structure MaskAssignment (State : Type*) (w : ℕ) where
  allowed : ℕ → BitVec w
  /-- An item takes a lane. -/
  extend : ℕ → Fin w → State → State
  better : State → State → Bool

namespace MaskAssignment

variable {State Cost : Type*} {w : ℕ} (assignment : MaskAssignment State w)

/-- What the state of some used lanes leads to when the next item takes a lane. -/
def offers (item : ℕ) (used : BitVec w) : Option State → List (BitVec w × Option State)
  | none => []
  | some state =>
      ((List.finRange w).filter fun lane : Fin w =>
          (assignment.allowed item &&& ~~~used).getLsbD lane).map
        fun lane : Fin w => (used ||| single lane, some (assignment.extend item lane state))

/-- The table of an item, from that of the items before. -/
def place (item : ℕ) (table : ValueTable (BitVec w) (Option State)) :
    ValueTable (BitVec w) (Option State) :=
  proposeAll (beatsOption assignment.better) ⟨fun _ => none⟩
    ((allMasks w).flatMap fun used => assignment.offers item used (table.value used))

/-- The tables of the first items, one after the other. -/
def solve (count : ℕ) (table : ValueTable (BitVec w) (Option State)) :
    ValueTable (BitVec w) (Option State) :=
  (List.range count).foldl (fun table item => assignment.place item table) table

/-- Only the lanes that nothing may take have a state. -/
def reserved (seed : BitVec w) (state : State) : ValueTable (BitVec w) (Option State) where
  value used := if used = seed then some state else none

/-- The best state of a table. -/
def best (table : ValueTable (BitVec w) (Option State)) : Option State :=
  strongest (beatsOption assignment.better) none ((allMasks w).map table.value)

/-- The first items take lanes that they may, none reserved and none twice. -/
structure Assigns (seed : BitVec w) (count : ℕ) (lane : ℕ → Fin w) : Prop where
  allowed : ∀ item < count, lane item ∈ lanes (assignment.allowed item)
  free : ∀ item < count, lane item ∉ lanes seed
  apart : ∀ first < count, ∀ second < count, lane first = lane second → first = second

/-- The state after the first items. -/
def stateOf (start : State) (lane : ℕ → Fin w) : ℕ → State
  | 0 => start
  | item + 1 => assignment.extend item (lane item) (stateOf start lane item)

/-- The reserved lanes and those that the first items take. -/
def usedLanes (seed : BitVec w) (lane : ℕ → Fin w) (count : ℕ) : Finset (Fin w) :=
  lanes seed ∪ (Finset.range count).image lane

section Assigns

variable {assignment} {seed used : BitVec w} {count : ℕ} {lane other : ℕ → Fin w} {start : State}

/-- The state of an assignment depends on the lanes of the first items only. -/
theorem stateOf_congr (same : ∀ item < count, lane item = other item) :
    assignment.stateOf start lane count = assignment.stateOf start other count := by
  induction count with
  | zero => rfl
  | succ count ih =>
      rw [stateOf, stateOf, same count (Nat.lt_succ_self count),
        ih fun item before => same item (before.trans (Nat.lt_succ_self count))]

/-- There are lanes for the items. -/
theorem Assigns.le_width (assigns : assignment.Assigns seed count lane) : count ≤ w := by
  have injective : Function.Injective fun item : Fin count => lane item := by
    intro first second same
    exact Fin.ext (assigns.apart first first.isLt second second.isLt same)
  have few := Fintype.card_le_of_injective _ injective
  rwa [Fintype.card_fin, Fintype.card_fin] at few

/-- An assignment of one item more assigns the items before it. -/
theorem Assigns.before (assigns : assignment.Assigns seed (count + 1) lane) :
    assignment.Assigns seed count lane where
  allowed item earlier := assigns.allowed item (earlier.trans (Nat.lt_succ_self count))
  free item earlier := assigns.free item (earlier.trans (Nat.lt_succ_self count))
  apart first here second there := assigns.apart first (here.trans (Nat.lt_succ_self count))
    second (there.trans (Nat.lt_succ_self count))

/-- The lane of the last item is free. -/
theorem Assigns.notMem (assigns : assignment.Assigns seed (count + 1) lane) :
    lane count ∉ usedLanes seed lane count := by
  intro used
  rcases Finset.mem_union.mp used with reserved | taken
  · exact assigns.free count (Nat.lt_succ_self count) reserved
  · obtain ⟨item, before, same⟩ := Finset.mem_image.mp taken
    have earlier := Finset.mem_range.mp before
    have equal := assigns.apart item (earlier.trans (Nat.lt_succ_self count)) count
      (Nat.lt_succ_self count) same
    exact absurd equal earlier.ne

/-- One item more uses one lane more. -/
theorem usedLanes_succ : usedLanes seed lane (count + 1) =
    usedLanes seed lane count ∪ {lane count} := by
  rw [usedLanes, Finset.range_add_one, Finset.image_insert, usedLanes, Finset.insert_eq,
    Finset.union_comm {lane count}, Finset.union_assoc]

/-- The lanes in use depend on the first items only. -/
theorem usedLanes_congr (same : ∀ item < count, lane item = other item) :
    usedLanes seed lane count = usedLanes seed other count := by
  rw [usedLanes, usedLanes, Finset.image_congr fun item before =>
    same item (Finset.mem_range.mp (Finset.mem_coe.mp before))]

/-- The next item takes a lane that is free. -/
theorem Assigns.update (assigns : assignment.Assigns seed count lane) {here : Fin w}
    (allowed : here ∈ lanes (assignment.allowed count))
    (free : here ∉ usedLanes seed lane count) :
    assignment.Assigns seed (count + 1) (Function.update lane count here) := by
  have stays : ∀ item < count, Function.update lane count here item = lane item :=
    fun item before => Function.update_of_ne before.ne _ _
  have fresh : ∀ item < count, lane item ≠ here := by
    rintro item before rfl
    refine free (Finset.mem_union_right _ ?_)
    exact Finset.mem_image_of_mem lane (Finset.mem_range.mpr before)
  constructor
  · intro item bounded
    rcases Nat.lt_succ_iff_lt_or_eq.mp bounded with before | rfl
    · rw [stays item before]
      exact assigns.allowed item before
    · rwa [Function.update_self]
  · intro item bounded
    rcases Nat.lt_succ_iff_lt_or_eq.mp bounded with before | rfl
    · rw [stays item before]
      exact assigns.free item before
    · rw [Function.update_self]
      exact fun reserved => free (Finset.mem_union_left _ reserved)
  · intro first here' second there same
    rcases Nat.lt_succ_iff_lt_or_eq.mp here' with before | rfl
    · rcases Nat.lt_succ_iff_lt_or_eq.mp there with later | rfl
      · rw [stays first before, stays second later] at same
        exact assigns.apart first before second later same
      · rw [stays first before, Function.update_self] at same
        exact absurd same (fresh first before)
    · rcases Nat.lt_succ_iff_lt_or_eq.mp there with later | rfl
      · rw [stays second later, Function.update_self] at same
        exact absurd same.symm (fresh second later)
      · rfl

end Assigns

/-- A state is offered for a mask if some allowed lane of the item leads there from a state that
does not use it. -/
theorem mem_offers {item : ℕ} {source used : BitVec w} {kept : Option State} {state : State} :
    (used, some state) ∈ assignment.offers item source kept ↔ ∃ before lane, kept = some before ∧
      lane ∈ lanes (assignment.allowed item) ∧ lane ∉ lanes source ∧
        used = source ||| single lane ∧ state = assignment.extend item lane before := by
  have open_iff (lane : Fin w) : (assignment.allowed item &&& ~~~source).getLsbD lane = true ↔
      lane ∈ lanes (assignment.allowed item) ∧ lane ∉ lanes source := by
    rw [← mem_lanes_iff_getLsbD, lanes_and, lanes_not, Finset.mem_inter, Finset.mem_compl]
  cases kept with
  | none => simp [offers]
  | some before =>
      simp only [offers, List.mem_map, List.mem_filter, List.mem_finRange, true_and, open_iff,
        Prod.mk.injEq, Option.some.injEq]
      constructor
      · rintro ⟨lane, ⟨allowed, free⟩, rfl, rfl⟩
        exact ⟨before, lane, rfl, allowed, free, rfl, rfl⟩
      · rintro ⟨_, lane, rfl, allowed, free, rfl, rfl⟩
        exact ⟨lane, ⟨allowed, free⟩, rfl, rfl⟩

/-- The table for one item more is the table before, with this item placed. -/
theorem solve_succ (count : ℕ) (table : ValueTable (BitVec w) (Option State)) :
    assignment.solve (count + 1) table = assignment.place count (assignment.solve count table) := by
  rw [solve, List.range_succ, List.foldl_append]
  rfl

section Lawful

variable [LinearOrder Cost]

/-- The better state is the cheaper one, and what is cheaper stays so with one more item. The
states of each stage are those that its items can lead to. -/
structure Lawful (start : State) (cost : State → Cost) (stage : ℕ → State → Prop) : Prop where
  better_iff : ∀ state kept, assignment.better state kept = true ↔ cost state < cost kept
  starts : stage 0 start
  extends_stage : ∀ item < w, ∀ lane state, stage item state →
    stage (item + 1) (assignment.extend item lane state)
  extend_le : ∀ item < w, ∀ lane state other, stage item state → stage item other →
    cost state ≤ cost other →
      cost (assignment.extend item lane state) ≤ cost (assignment.extend item lane other)

variable {assignment} {start state : State} {cost : State → Cost} {stage : ℕ → State → Prop}
  {seed used : BitVec w} {count : ℕ} {lane : ℕ → Fin w}

/-- The comparison of a lawful assignment is one by cost. -/
theorem Lawful.better_iff_worth (lawful : assignment.Lawful start cost stage) (state kept : State) :
    assignment.better state kept = true ↔
      OrderDual.toDual (cost kept) < OrderDual.toDual (cost state) :=
  lawful.better_iff state kept

/-- It keeps the better state. -/
theorem Lawful.keeps (lawful : assignment.Lawful start cost stage) :
    Keeps (beatsOption assignment.better) := keeps_beatsOption lawful.better_iff_worth

/-- The state of an assignment is at the stage of its number of items. -/
theorem Lawful.stage_stateOf (lawful : assignment.Lawful start cost stage) (bounded : count ≤ w) :
    stage count (assignment.stateOf start lane count) := by
  induction count with
  | zero => exact lawful.starts
  | succ count ih =>
      exact lawful.extends_stage count bounded _ _ (ih (Nat.le_of_succ_le bounded))

/-- Every state is that of an assignment. By induction on the items. -/
theorem solve_sound [Nonempty (Fin w)]
    (found : (assignment.solve count (reserved seed start)).value used = some state) :
    ∃ lane, assignment.Assigns seed count lane ∧ usedLanes seed lane count = lanes used ∧
      state = assignment.stateOf start lane count := by
  induction count generalizing used state with
  | zero =>
      change (if used = seed then some start else none) = some state at found
      split_ifs at found with same
      obtain rfl := Option.some.inj found
      subst same
      obtain ⟨lane⟩ : Nonempty (ℕ → Fin w) := inferInstance
      refine ⟨lane, ⟨?_, ?_, ?_⟩, ?_, rfl⟩
      · exact fun item before => absurd before (Nat.not_lt_zero item)
      · exact fun item before => absurd before (Nat.not_lt_zero item)
      · exact fun item before => absurd before (Nat.not_lt_zero item)
      · rw [usedLanes, Finset.range_zero, Finset.image_empty, Finset.union_empty]
  | succ count ih =>
      rw [solve_succ] at found
      have step : (assignment.place count (assignment.solve count (reserved seed start))).value
          used = none ∨ _ := proposeAll_sound ⟨fun _ => none⟩ _ used
      rcases step with nothing | offered
      · exact nomatch nothing.symm.trans found
      · change (used, (assignment.place count _).value used) ∈ _ at offered
        rw [found] at offered
        obtain ⟨source, -, offered⟩ := List.mem_flatMap.mp offered
        obtain ⟨before, here, kept, allowed, free, rfl, rfl⟩ :=
          (mem_offers assignment).mp offered
        obtain ⟨lane, assigns, uses, rfl⟩ := ih kept
        have stays : ∀ item < count, lane item = Function.update lane count here item :=
          fun item before => (Function.update_of_ne before.ne _ _).symm
        refine ⟨Function.update lane count here, assigns.update allowed ?_, ?_, ?_⟩
        · rw [uses]
          exact free
        · rw [usedLanes_succ, ← usedLanes_congr stays, uses, Function.update_self, lanes_or,
            lanes_single]
        · rw [stateOf, Function.update_self, ← stateOf_congr stays]

/-- No assignment is cheaper than the state of its lanes. By induction on the items: the last one
is taken off, and the rest is no cheaper than its own best state. -/
theorem Lawful.solve_best [Nonempty (Fin w)] (lawful : assignment.Lawful start cost stage)
    (assigns : assignment.Assigns seed count lane) (uses : usedLanes seed lane count = lanes used) :
    ∃ state, (assignment.solve count (reserved seed start)).value used = some state ∧
      cost state ≤ cost (assignment.stateOf start lane count) := by
  induction count generalizing used with
  | zero =>
      rw [usedLanes, Finset.range_zero, Finset.image_empty, Finset.union_empty] at uses
      obtain rfl := lanes_injective uses
      exact ⟨start, if_pos rfl, le_rfl⟩
  | succ count ih =>
      rw [solve_succ]
      have bounded : count < w := assigns.le_width
      have source : usedLanes seed lane count =
          lanes (maskOf (usedLanes seed lane count).toList) := by
        rw [lanes_maskOf, Finset.toList_toFinset]
      obtain ⟨state, found, less⟩ := ih assigns.before source
      have joined : used = maskOf (usedLanes seed lane count).toList ||| single (lane count) := by
        refine lanes_injective ?_
        rw [lanes_or, ← source, lanes_single, ← uses, usedLanes_succ]
      have offered : (used, some (assignment.extend count (lane count) state)) ∈
          (allMasks w).flatMap fun used => assignment.offers count used
            ((assignment.solve count (reserved seed start)).value used) := by
        refine List.mem_flatMap.mpr ⟨maskOf (usedLanes seed lane count).toList, mem_allMasks _, ?_⟩
        refine (mem_offers assignment).mpr ⟨state, lane count, found, ?_, ?_, joined, rfl⟩
        · exact assigns.allowed count (Nat.lt_succ_self count)
        · rw [← source]
          exact assigns.notMem
      have unbeaten : beatsOption assignment.better
          (some (assignment.extend count (lane count) state))
          ((assignment.place count _).value used) = false :=
        proposeAll_beats lawful.keeps offered
      obtain ⟨kept, stays, cheaper⟩ := le_of_unbeaten lawful.better_iff_worth unbeaten
      refine ⟨kept, stays, le_trans cheaper ?_⟩
      obtain ⟨other, assigned, -, rfl⟩ := solve_sound found
      exact lawful.extend_le count bounded _ _ _ (lawful.stage_stateOf bounded.le)
        (lawful.stage_stateOf bounded.le) less

/-- The best state is that of a cheapest assignment, and there is one when the items can be
assigned at all. -/
theorem Lawful.solved_eq [Nonempty (Fin w)] (lawful : assignment.Lawful start cost stage) :
    (∃ lane, assignment.Assigns seed count lane ∧
      assignment.best (assignment.solve count (reserved seed start)) =
        some (assignment.stateOf start lane count) ∧
      ∀ other, assignment.Assigns seed count other →
        cost (assignment.stateOf start lane count) ≤ cost (assignment.stateOf start other count)) ∨
    (∀ lane, ¬assignment.Assigns seed count lane) ∧
      assignment.best (assignment.solve count (reserved seed start)) = none := by
  have found : assignment.best (assignment.solve count (reserved seed start)) = none ∨
      assignment.best (assignment.solve count (reserved seed start)) ∈
        (allMasks w).map (assignment.solve count (reserved seed start)).value :=
    strongest_mem none _
  cases result : assignment.best (assignment.solve count (reserved seed start)) with
  | none =>
      refine .inr ⟨fun lane assigns => ?_, rfl⟩
      have uses : usedLanes seed lane count = lanes (maskOf (usedLanes seed lane count).toList) := by
        rw [lanes_maskOf, Finset.toList_toFinset]
      obtain ⟨state, kept, -⟩ := lawful.solve_best assigns uses
      have unbeaten := @strongest_beats _ _ lawful.keeps none _ _
        (List.mem_map.mpr ⟨_, mem_allMasks _, kept⟩)
      change beatsOption assignment.better (some state) (assignment.best _) = false at unbeaten
      rw [result] at unbeaten
      exact nomatch unbeaten
  | some state =>
      rw [result] at found
      obtain ⟨used, -, kept⟩ := List.mem_map.mp (found.resolve_left nofun)
      obtain ⟨lane, assigns, -, rfl⟩ := solve_sound kept
      refine .inl ⟨lane, assigns, rfl, fun other assigned => ?_⟩
      have uses : usedLanes seed other count =
          lanes (maskOf (usedLanes seed other count).toList) := by
        rw [lanes_maskOf, Finset.toList_toFinset]
      obtain ⟨state, kept, cheaper⟩ := lawful.solve_best assigned uses
      have unbeaten := @strongest_beats _ _ lawful.keeps none _ _
        (List.mem_map.mpr ⟨_, mem_allMasks _, kept⟩)
      change beatsOption assignment.better (some state) (assignment.best _) = false at unbeaten
      rw [result] at unbeaten
      obtain ⟨best, same, less⟩ := le_of_unbeaten lawful.better_iff_worth unbeaten
      obtain rfl := Option.some.inj same
      exact le_trans less cheaper

end Lawful

end MaskAssignment

end M3Midi.Foundation
