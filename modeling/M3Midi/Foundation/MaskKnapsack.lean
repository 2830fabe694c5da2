import M3Midi.Foundation.MaskSweep
import Mathlib.Algebra.BigOperators.Ring.Finset
import Mathlib.Algebra.Order.BigOperators.Group.Finset

/-! # Knapsacks of lanes

Items are placed on lanes, at most once each and never two on one lane, up to a capacity.
A table with one state for each mask of used lanes is swept in place once for every item.
Then each state stands for a packing on its lanes, and none there is worth more
(`M3Midi.Foundation.MaskKnapsack.Lawful.solve_sound`,
`M3Midi.Foundation.MaskKnapsack.Lawful.solve_best`).
-/

namespace M3Midi.Foundation

open LaneMask MaskSweep ProposalTable

/-- The places of each item, and what a state makes of them. An item may be left out, or take all
the lanes of one of its places. -/
structure MaskKnapsack (Place State : Type*) (w : ℕ) where
  places : ℕ → List Place
  mask : Place → BitVec w
  /-- The state has room for one more place. -/
  admits : State → Place → Bool
  /-- An item is added at a place. -/
  extend : ℕ → Place → State → State
  better : State → State → Bool

namespace MaskKnapsack

variable {Place State Value : Type*} {w : ℕ} (knapsack : MaskKnapsack Place State w)

/-- What the state of some used lanes leads to with one more item. -/
def offers (item : ℕ) (used : BitVec w) : Option State → List (BitVec w × Option State)
  | none => []
  | some state =>
      ((knapsack.places item).filter fun place =>
          decide (used &&& knapsack.mask place = 0) && knapsack.admits state place).map
        fun place => (used ||| knapsack.mask place, some (knapsack.extend item place state))

/-- One more item, with the masks from the highest on down. -/
def consider (item : ℕ) (table : ValueTable (BitVec w) (Option State)) :
    ValueTable (BitVec w) (Option State) :=
  sweep (beatsOption knapsack.better) (knapsack.offers item) (allMasks w).reverse table

/-- The first items, one after the other. -/
def solve (count : ℕ) (table : ValueTable (BitVec w) (Option State)) :
    ValueTable (BitVec w) (Option State) :=
  (List.range count).foldl (fun table item => knapsack.consider item table) table

/-- Only the seed's lanes have a state. -/
def seeded (seed : BitVec w) (state : State) : ValueTable (BitVec w) (Option State) where
  value used := if used = seed then some state else none

/-- The best state of a table, with its lanes. -/
def best (table : ValueTable (BitVec w) (Option State)) : Option State × BitVec w :=
  strongest (fun found kept => beatsOption knapsack.better found.1 kept.1) (none, 0)
    ((allMasks w).map fun used => (table.value used, used))

/-- Some of the first items, each at a place of its own beside the seed. -/
structure Packing (seed : BitVec w) (capacity count : ℕ) (chosen : Finset ℕ)
    (place : ℕ → Place) : Prop where
  within : ∀ item ∈ chosen, item < count
  placed : ∀ item ∈ chosen, place item ∈ knapsack.places item
  free : ∀ item ∈ chosen, Disjoint (lanes (knapsack.mask (place item))) (lanes seed)
  apart : ∀ first ∈ chosen, ∀ second ∈ chosen, first ≠ second →
    Disjoint (lanes (knapsack.mask (place first))) (lanes (knapsack.mask (place second)))
  bounded : LaneMask.count seed + ∑ item ∈ chosen, LaneMask.count (knapsack.mask (place item)) ≤
    capacity

/-- The lanes that the seed and a packing use. -/
def usedLanes (seed : BitVec w) (chosen : Finset ℕ) (place : ℕ → Place) : Finset (Fin w) :=
  lanes seed ∪ chosen.biUnion fun item => lanes (knapsack.mask (place item))

/-- The lanes in use are those of the seed and of the chosen items' places. -/
theorem mem_usedLanes {seed : BitVec w} {chosen : Finset ℕ} {place : ℕ → Place} {lane : Fin w} :
    lane ∈ knapsack.usedLanes seed chosen place ↔ lane ∈ lanes seed ∨
      ∃ item ∈ chosen, lane ∈ lanes (knapsack.mask (place item)) := by
  rw [usedLanes, Finset.mem_union, Finset.mem_biUnion]

namespace Packing

variable {knapsack} {seed used : BitVec w} {capacity count item : ℕ} {chosen : Finset ℕ}
  {place : ℕ → Place}

/-- A packing uses as many lanes as its places have together. -/
theorem card_usedLanes (packing : knapsack.Packing seed capacity count chosen place) :
    (knapsack.usedLanes seed chosen place).card =
      LaneMask.count seed + ∑ item ∈ chosen, LaneMask.count (knapsack.mask (place item)) := by
  have apart : Disjoint (lanes seed)
      (chosen.biUnion fun item => lanes (knapsack.mask (place item))) := by
    rw [Finset.disjoint_biUnion_right]
    exact fun item member => (packing.free item member).symm
  rw [usedLanes, Finset.card_union_of_disjoint apart, Finset.card_biUnion, count_eq]
  · exact congrArg _ (Finset.sum_congr rfl fun item _ => (count_eq _).symm)
  · exact fun first here second there different => packing.apart first here second there different

/-- A packing uses no more lanes than the capacity. -/
theorem card_le (packing : knapsack.Packing seed capacity count chosen place) :
    (knapsack.usedLanes seed chosen place).card ≤ capacity :=
  packing.card_usedLanes.trans_le packing.bounded

/-- To choose nothing is a packing, if the seed fits. -/
theorem empty (bounded : LaneMask.count seed ≤ capacity) :
    knapsack.Packing seed capacity count ∅ place where
  within _ member := absurd member (Finset.notMem_empty _)
  placed _ member := absurd member (Finset.notMem_empty _)
  free _ member := absurd member (Finset.notMem_empty _)
  apart _ member := absurd member (Finset.notMem_empty _)
  bounded := by rwa [Finset.sum_empty]

/-- A packing of the first items is one of more items. -/
theorem mono (packing : knapsack.Packing seed capacity count chosen place) {more : ℕ}
    (less : count ≤ more) : knapsack.Packing seed capacity more chosen place :=
  { packing with within := fun item member => (packing.within item member).trans_le less }

/-- A packing of more items that leaves out the last one is one of the items before. -/
theorem of_notMem (packing : knapsack.Packing seed capacity (count + 1) chosen place)
    (absent : count ∉ chosen) : knapsack.Packing seed capacity count chosen place := by
  refine { packing with within := fun item member => ?_ }
  have below := packing.within item member
  have other : item ≠ count := ne_of_mem_of_not_mem member absent
  omega

/-- The items before the last one of a packing. -/
theorem erase (packing : knapsack.Packing seed capacity (count + 1) chosen place) :
    knapsack.Packing seed capacity count (chosen.erase count) place where
  within item member := by
    have below := packing.within item (Finset.mem_of_mem_erase member)
    have other := Finset.ne_of_mem_erase member
    omega
  placed item member := packing.placed item (Finset.mem_of_mem_erase member)
  free item member := packing.free item (Finset.mem_of_mem_erase member)
  apart first here second there :=
    packing.apart first (Finset.mem_of_mem_erase here) second (Finset.mem_of_mem_erase there)
  bounded := by
    refine le_trans ?_ packing.bounded
    exact Nat.add_le_add_left (Finset.sum_le_sum_of_subset (Finset.erase_subset _ _)) _

/-- The next item has not been chosen yet. -/
theorem notMem (packing : knapsack.Packing seed capacity count chosen place) : count ∉ chosen :=
  fun member => absurd (packing.within count member) (lt_irrefl count)

/-- The choice of another place for an item outside changes nothing. -/
theorem sum_update {Sum : Type*} [AddCommMonoid Sum] (absent : item ∉ chosen) (here : Place)
    (weigh : ℕ → Place → Sum) :
    ∑ other ∈ chosen, weigh other (Function.update place item here other) =
      ∑ other ∈ chosen, weigh other (place other) := by
  refine Finset.sum_congr rfl fun other member => ?_
  rw [Function.update_of_ne (ne_of_mem_of_not_mem member absent)]

/-- One more item joins a packing at a place whose lanes are free. -/
theorem insert (packing : knapsack.Packing seed capacity count chosen place) {here : Place}
    (placed : here ∈ knapsack.places count)
    (free : Disjoint (knapsack.usedLanes seed chosen place) (lanes (knapsack.mask here)))
    (bounded : (knapsack.usedLanes seed chosen place).card + LaneMask.count (knapsack.mask here) ≤
      capacity) :
    knapsack.Packing seed capacity (count + 1) (insert count chosen)
      (Function.update place count here) := by
  have absent := packing.notMem
  have seedFree := (Finset.disjoint_union_left.mp free).1
  have apart : ∀ item ∈ chosen,
      Disjoint (lanes (knapsack.mask (place item))) (lanes (knapsack.mask here)) :=
    (Finset.disjoint_biUnion_left ..).mp (Finset.disjoint_union_left.mp free).2
  have stays : ∀ item ∈ chosen, Function.update place count here item = place item :=
    fun item member => Function.update_of_ne (ne_of_mem_of_not_mem member absent) _ _
  constructor
  · intro item member
    rcases Finset.mem_insert.mp member with rfl | before
    · exact Nat.lt_succ_self _
    · exact (packing.within item before).trans (Nat.lt_succ_self _)
  · intro item member
    rcases Finset.mem_insert.mp member with rfl | before
    · rwa [Function.update_self]
    · rw [stays item before]
      exact packing.placed item before
  · intro item member
    rcases Finset.mem_insert.mp member with rfl | before
    · rw [Function.update_self]
      exact seedFree.symm
    · rw [stays item before]
      exact packing.free item before
  · intro first here' second there different
    rcases Finset.mem_insert.mp here' with rfl | before
    · rcases Finset.mem_insert.mp there with rfl | later
      · exact absurd rfl different
      · rw [Function.update_self, stays second later]
        exact (apart second later).symm
    · rcases Finset.mem_insert.mp there with rfl | later
      · rw [Function.update_self, stays first before]
        exact apart first before
      · rw [stays first before, stays second later]
        exact packing.apart first before second later different
  · rw [Finset.sum_insert absent, Function.update_self,
      sum_update absent here fun _ place => LaneMask.count (knapsack.mask place)]
    have card := packing.card_usedLanes
    omega

/-- The lanes used with one more item. -/
theorem usedLanes_insert (absent : item ∉ chosen) (here : Place) :
    knapsack.usedLanes seed (Insert.insert item chosen) (Function.update place item here) =
      knapsack.usedLanes seed chosen place ∪ lanes (knapsack.mask here) := by
  have same : (chosen.biUnion fun other =>
      lanes (knapsack.mask (Function.update place item here other))) =
        chosen.biUnion fun other => lanes (knapsack.mask (place other)) := by
    refine Finset.biUnion_congr rfl fun other member => ?_
    rw [Function.update_of_ne (ne_of_mem_of_not_mem member absent)]
  rw [usedLanes, Finset.biUnion_insert, Function.update_self, same, usedLanes,
    Finset.union_comm (lanes (knapsack.mask here)), Finset.union_assoc]

/-- The lanes in use are those of one item and of all others. -/
theorem usedLanes_erase (member : item ∈ chosen) :
    knapsack.usedLanes seed chosen place =
      knapsack.usedLanes seed (chosen.erase item) place ∪ lanes (knapsack.mask (place item)) := by
  conv_lhs => rw [← Finset.insert_erase member]
  rw [usedLanes, Finset.biUnion_insert, usedLanes, Finset.union_comm (lanes (knapsack.mask _)),
    Finset.union_assoc]

/-- The last item's place is free beside the items before. -/
theorem free_erase (packing : knapsack.Packing seed capacity (count + 1) chosen place)
    (member : count ∈ chosen) :
    Disjoint (knapsack.usedLanes seed (chosen.erase count) place)
      (lanes (knapsack.mask (place count))) := by
  refine Finset.disjoint_union_left.mpr ⟨(packing.free count member).symm, ?_⟩
  refine (Finset.disjoint_biUnion_left ..).mpr fun item before => ?_
  exact packing.apart item (Finset.mem_of_mem_erase before) count member
    (Finset.ne_of_mem_erase before)

end Packing

section Lawful

variable [AddCommMonoid Value] [LinearOrder Value]

/-- Values and loads add up, and the better state is the one that is worth more. Then a table over
the masks is enough to find the best packing of all. -/
structure Lawful (capacity : ℕ) (value : State → Value) (chosen : State → Finset ℕ)
    (load : State → ℕ) (gain : ℕ → Place → Value) : Prop where
  better_iff : ∀ state kept, knapsack.better state kept = true ↔ value kept < value state
  admits_iff : ∀ state place, knapsack.admits state place = true ↔
    load state + LaneMask.count (knapsack.mask place) ≤ capacity
  value_extend : ∀ item place state,
    value (knapsack.extend item place state) = value state + gain item place
  chosen_extend : ∀ item place state,
    chosen (knapsack.extend item place state) = insert item (chosen state)
  load_extend : ∀ item place state,
    load (knapsack.extend item place state) = load state + LaneMask.count (knapsack.mask place)

variable {knapsack} {capacity : ℕ} {value : State → Value} {chosen : State → Finset ℕ}
  {load : State → ℕ} {gain : ℕ → Place → Value}

/-- The comparison of a lawful knapsack keeps the better state. -/
theorem Lawful.keeps (lawful : knapsack.Lawful capacity value chosen load gain) :
    Keeps (beatsOption knapsack.better) := keeps_beatsOption lawful.better_iff

/-- A state is offered for a mask if some place of the item leads there from a state that does not
use its lanes. -/
theorem mem_offers {item : ℕ} {source used : BitVec w} {kept : Option State} {state : State} :
    (used, some state) ∈ knapsack.offers item source kept ↔ ∃ before place, kept = some before ∧
      place ∈ knapsack.places item ∧ source &&& knapsack.mask place = 0 ∧
        knapsack.admits before place = true ∧ used = source ||| knapsack.mask place ∧
          state = knapsack.extend item place before := by
  cases kept with
  | none => simp [offers]
  | some before =>
      simp only [offers, List.mem_map, List.mem_filter, Bool.and_eq_true, decide_eq_true_eq,
        Prod.mk.injEq, Option.some.injEq]
      constructor
      · rintro ⟨place, ⟨member, free, admits⟩, rfl, rfl⟩
        exact ⟨before, place, rfl, member, free, admits, rfl, rfl⟩
      · rintro ⟨_, place, rfl, member, free, admits, rfl, rfl⟩
        exact ⟨place, ⟨member, free, admits⟩, rfl, rfl⟩

/-- An offer always uses more lanes than the state it starts from. The table can thus be filled in
place. -/
theorem forward_offers (item : ℕ) :
    Forward (knapsack.offers item) (allMasks w).reverse := by
  refine forward_of_grows fun source kept proposal member => ?_
  cases kept with
  | none => exact absurd member List.not_mem_nil
  | some state =>
      obtain ⟨place, -, rfl⟩ := List.mem_map.mp member
      exact ⟨knapsack.mask place, rfl⟩

/-- The table for one item more is the table before, with this item considered. -/
theorem solve_succ (count : ℕ) (table : ValueTable (BitVec w) (Option State)) :
    knapsack.solve (count + 1) table = knapsack.consider count (knapsack.solve count table) := by
  rw [solve, List.range_succ, List.foldl_append]
  rfl

variable [Nonempty Place] {seed used : BitVec w} {start state : State} {count : ℕ}

omit [Nonempty Place] in
/-- A packing that a state stands for goes on with one more item. -/
theorem Lawful.insert (lawful : knapsack.Lawful capacity value chosen load gain)
    {source : BitVec w} {place : ℕ → Place} {here : Place}
    (packing : knapsack.Packing seed capacity count (chosen state) place)
    (uses : knapsack.usedLanes seed (chosen state) place = lanes source)
    (worth : value state = value start + ∑ item ∈ chosen state, gain item (place item))
    (loaded : load state = LaneMask.count source) (member : here ∈ knapsack.places count)
    (free : source &&& knapsack.mask here = 0) (admits : knapsack.admits state here = true) :
    let after := knapsack.extend count here state
    knapsack.Packing seed capacity (count + 1) (chosen after) (Function.update place count here) ∧
      knapsack.usedLanes seed (chosen after) (Function.update place count here) =
        lanes (source ||| knapsack.mask here) ∧
      value after = value start +
        ∑ item ∈ chosen after, gain item (Function.update place count here item) ∧
      load after = LaneMask.count (source ||| knapsack.mask here) := by
  intro after
  have disjoint : Disjoint (knapsack.usedLanes seed (chosen state) place)
      (lanes (knapsack.mask here)) := by
    rw [uses]
    exact and_eq_zero.mp free
  have room := (lawful.admits_iff state here).mp admits
  rw [loaded, count_eq source, ← uses] at room
  refine ⟨?_, ?_, ?_, ?_⟩
  · rw [lawful.chosen_extend]
    exact packing.insert member disjoint room
  · rw [lawful.chosen_extend, Packing.usedLanes_insert packing.notMem, uses, lanes_or]
  · rw [lawful.value_extend, worth, lawful.chosen_extend,
      Finset.sum_insert packing.notMem, Function.update_self,
      Packing.sum_update packing.notMem here gain, add_assoc, add_comm (gain count here)]
  · rw [lawful.load_extend, loaded, count_eq, count_eq, count_eq, lanes_or,
      Finset.card_union_of_disjoint (and_eq_zero.mp free)]

/-- Every state stands for a packing on its lanes. By induction on the items, each of which is
placed or left out. -/
theorem Lawful.solve_sound (lawful : knapsack.Lawful capacity value chosen load gain)
    (nothing : chosen start = ∅) (loaded : load start = LaneMask.count seed)
    (fits : LaneMask.count seed ≤ capacity)
    (found : (knapsack.solve count (seeded seed start)).value used = some state) :
    ∃ place, knapsack.Packing seed capacity count (chosen state) place ∧
      knapsack.usedLanes seed (chosen state) place = lanes used ∧
      value state = value start + ∑ item ∈ chosen state, gain item (place item) ∧
      load state = LaneMask.count used := by
  induction count generalizing used state with
  | zero =>
      change (if used = seed then some start else none) = some state at found
      split_ifs at found with same
      obtain rfl := Option.some.inj found
      subst same
      obtain ⟨place⟩ : Nonempty (ℕ → Place) := inferInstance
      rw [nothing]
      refine ⟨place, .empty fits, ?_, ?_, loaded⟩
      · rw [usedLanes, Finset.biUnion_empty, Finset.union_empty]
      · rw [Finset.sum_empty, add_zero]
  | succ count ih =>
      rw [solve_succ] at found
      have step : (knapsack.consider count (knapsack.solve count (seeded seed start))).value used =
            (knapsack.solve count (seeded seed start)).value used ∨ _ :=
        sweep_sound (forward_offers count) _ used
      rcases step with old | ⟨source, -, offered⟩
      · obtain ⟨place, packing, used, worth, load⟩ := ih (old.symm.trans found)
        exact ⟨place, packing.mono (Nat.le_succ count), used, worth, load⟩
      · change (used, (knapsack.consider count _).value used) ∈ _ at offered
        rw [found] at offered
        obtain ⟨before, here, kept, member, free, admits, rfl, rfl⟩ := mem_offers.mp offered
        obtain ⟨place, packing, uses, worth, loaded⟩ := ih kept
        exact ⟨_, lawful.insert packing uses worth loaded member free admits⟩

omit [Nonempty Place] in
/-- The lanes of a packing without its last item, and those of that item. -/
theorem Packing.source_lanes {capacity : ℕ} {items : Finset ℕ} {place : ℕ → Place}
    (packing : knapsack.Packing seed capacity (count + 1) items place) (taken : count ∈ items)
    (uses : knapsack.usedLanes seed items place = lanes used) :
    knapsack.usedLanes seed (items.erase count) place =
        lanes (used &&& ~~~knapsack.mask (place count)) ∧
      (used &&& ~~~knapsack.mask (place count)) &&& knapsack.mask (place count) = 0 ∧
      (used &&& ~~~knapsack.mask (place count)) ||| knapsack.mask (place count) = used := by
  have free := packing.free_erase taken
  have whole : lanes used = knapsack.usedLanes seed (items.erase count) place ∪
      lanes (knapsack.mask (place count)) := by
    rw [← uses]
    exact Packing.usedLanes_erase taken
  have source : knapsack.usedLanes seed (items.erase count) place =
      lanes (used &&& ~~~knapsack.mask (place count)) := by
    rw [lanes_and, lanes_not, ← Finset.sdiff_eq_inter_compl, whole,
      Finset.union_sdiff_cancel_right free]
  refine ⟨source, ?_, ?_⟩
  · rw [and_eq_zero, ← source]
    exact free
  · apply lanes_injective
    rw [lanes_or, ← source, whole]

/-- The last item of a packing is offered beside the state of the items before. -/
theorem Lawful.offered (lawful : knapsack.Lawful capacity value chosen load gain)
    (nothing : chosen start = ∅) (loaded : load start = LaneMask.count seed)
    (fits : LaneMask.count seed ≤ capacity) {items : Finset ℕ} {place : ℕ → Place}
    (packing : knapsack.Packing seed capacity (count + 1) items place) (taken : count ∈ items)
    (uses : knapsack.usedLanes seed items place = lanes used)
    (found : (knapsack.solve count (seeded seed start)).value
      (used &&& ~~~knapsack.mask (place count)) = some state) :
    (used, some (knapsack.extend count (place count) state)) ∈
      knapsack.offers count (used &&& ~~~knapsack.mask (place count))
        ((knapsack.solve count (seeded seed start)).value
          (used &&& ~~~knapsack.mask (place count))) := by
  obtain ⟨source, disjoint, joined⟩ := packing.source_lanes taken uses
  obtain ⟨-, -, -, -, load⟩ := lawful.solve_sound nothing loaded fits found
  have room : knapsack.admits state (place count) = true := by
    have bounded := packing.bounded
    rw [← packing.card_usedLanes, uses, ← joined, lanes_or,
      Finset.card_union_of_disjoint (and_eq_zero.mp disjoint), ← count_eq, ← count_eq, ← load]
      at bounded
    exact (lawful.admits_iff state (place count)).mpr bounded
  exact mem_offers.mpr ⟨state, place count, found, packing.placed count taken, disjoint, room,
    joined.symm, rfl⟩

omit [LinearOrder Value] [Nonempty Place] in
/-- What a packing is worth with its last item. -/
theorem worth_erase (worth : Value) (weigh : ℕ → Place → Value) {items : Finset ℕ}
    {place : ℕ → Place} (taken : count ∈ items) :
    worth + ∑ item ∈ items, weigh item (place item) =
      worth + ∑ item ∈ items.erase count, weigh item (place item) + weigh count (place count) := by
  rw [add_assoc, Finset.sum_erase_add _ _ taken]

/-- No packing is worth more than the state of its lanes. By induction on the items: the last one
is taken off, and the rest is worth no more than its own best state. -/
theorem Lawful.solve_best [IsOrderedAddMonoid Value]
    (lawful : knapsack.Lawful capacity value chosen load gain)
    (nothing : chosen start = ∅) (loaded : load start = LaneMask.count seed)
    (fits : LaneMask.count seed ≤ capacity) {items : Finset ℕ} {place : ℕ → Place}
    (packing : knapsack.Packing seed capacity count items place)
    (uses : knapsack.usedLanes seed items place = lanes used) :
    ∃ state, (knapsack.solve count (seeded seed start)).value used = some state ∧
      value start + ∑ item ∈ items, gain item (place item) ≤ value state := by
  induction count generalizing items used with
  | zero =>
      have empty : items = ∅ := Finset.eq_empty_of_forall_notMem fun item member =>
        absurd (packing.within item member) (Nat.not_lt_zero item)
      subst empty
      rw [usedLanes, Finset.biUnion_empty, Finset.union_empty] at uses
      obtain rfl := lanes_injective uses
      refine ⟨start, if_pos rfl, ?_⟩
      rw [Finset.sum_empty, add_zero]
  | succ count ih =>
      by_cases taken : count ∈ items
      · obtain ⟨state, found, worth⟩ := ih packing.erase (packing.source_lanes taken uses).1
        have unbeaten := sweep_beats lawful.keeps (forward_offers count)
          (List.mem_reverse.mpr (mem_allMasks _))
          (lawful.offered nothing loaded fits packing taken uses found)
        obtain ⟨kept, stays, more⟩ := le_of_unbeaten lawful.better_iff unbeaten
        refine ⟨kept, (congrArg (·.value used) (knapsack.solve_succ count _)).trans stays, ?_⟩
        calc value start + ∑ item ∈ items, gain item (place item)
          _ = value start + ∑ item ∈ items.erase count, gain item (place item) +
                gain count (place count) := worth_erase _ gain taken
          _ ≤ value state + gain count (place count) := by
              gcongr
          _ = value (knapsack.extend count (place count) state) :=
              (lawful.value_extend count (place count) state).symm
          _ ≤ value kept := more
      · obtain ⟨state, found, worth⟩ := ih (packing.of_notMem taken) uses
        rw [solve_succ]
        have unbeaten : beatsOption knapsack.better (some state)
            ((knapsack.solve count (seeded seed start)).value used) = false := by
          rw [found]
          exact lawful.keeps.not_self (some state)
        obtain ⟨kept, stays, more⟩ := le_of_unbeaten lawful.better_iff
          (sweep_kept lawful.keeps (forward_offers count) unbeaten)
        exact ⟨kept, stays, worth.trans more⟩

omit [Nonempty Place] in
/-- The best state is one of the table's, and none of them is worth more. -/
theorem Lawful.best_spec (lawful : knapsack.Lawful capacity value chosen load gain)
    {table : ValueTable (BitVec w) (Option State)} (found : table.value used = some state) :
    ∃ best, (knapsack.best table).1 = some best ∧
      table.value (knapsack.best table).2 = some best ∧ value state ≤ value best := by
  have keeps : Keeps fun found kept : Option State × BitVec w =>
      beatsOption knapsack.better found.1 kept.1 :=
    ⟨fun found => lawful.keeps.not_self found.1,
      fun newer older found => lawful.keeps.kept newer.1 older.1 found.1⟩
  have offered : (table.value used, used) ∈
      (allMasks w).map fun used => (table.value used, used) :=
    List.mem_map.mpr ⟨used, mem_allMasks used, rfl⟩
  have unbeaten : beatsOption knapsack.better (table.value used) (knapsack.best table).1 = false :=
    strongest_beats keeps offered
  rw [found] at unbeaten
  obtain ⟨best, stays, worth⟩ := le_of_unbeaten lawful.better_iff unbeaten
  refine ⟨best, stays, ?_, worth⟩
  have source : knapsack.best table = (none, 0) ∨ knapsack.best table ∈
      (allMasks w).map fun used => (table.value used, used) := strongest_mem (none, 0) _
  rcases source with nothing | member
  · rw [nothing] at stays
    exact nomatch stays
  · obtain ⟨mask, -, same⟩ := List.mem_map.mp member
    rw [← same] at stays ⊢
    exact stays

end Lawful

end MaskKnapsack

end M3Midi.Foundation
