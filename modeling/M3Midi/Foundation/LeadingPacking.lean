import M3Midi.Foundation.MaskKnapsack

/-! # The first of the best packings

A table that only takes what is strictly better keeps the first of several packings that are worth
as much. Which one that is does not depend on how the table was swept. Among the packings that are
worth most it has the lowest mask of used lanes, and among those on the same lanes it leaves out
the last item in which two of them differ, or has it on the lower lanes. There is exactly one
such choice of items (`M3Midi.Foundation.MaskKnapsack.Leading.unique`), and it is what the best
state of the table stands for (`M3Midi.Foundation.MaskKnapsack.Lawful.best_leading`).
-/

namespace M3Midi.Foundation

open LaneMask MaskSweep ProposalTable

namespace MaskKnapsack

variable {Place State Value : Type*} {w : ℕ} (knapsack : MaskKnapsack Place State w)

/-- The lanes of an item in a choice, as a number that is zero when the item is left out. -/
def code (chosen : Finset ℕ) (place : ℕ → Place) (item : ℕ) : ℕ :=
  if item ∈ chosen then (knapsack.mask (place item)).toNat else 0

/-- The last item in which two codes differ is lower in the first. -/
def Precedes (first second : ℕ → ℕ) : Prop :=
  ∃ item, first item < second item ∧ ∀ later, item < later → first later = second later

/-- Two codes that agree from some item on are equal, or one of them precedes the other. -/
theorem precedes_total {first second : ℕ → ℕ} {count : ℕ}
    (same : ∀ item, count ≤ item → first item = second item) :
    first = second ∨ Precedes first second ∨ Precedes second first := by
  induction count with
  | zero => exact .inl (funext fun item => same item (Nat.zero_le item))
  | succ count ih =>
      rcases lt_trichotomy (first count) (second count) with less | equal | more
      · exact .inr (.inl ⟨count, less, same⟩)
      · refine ih fun item reached => ?_
        rcases Nat.eq_or_lt_of_le reached with rfl | beyond
        · exact equal
        · exact same item beyond
      · exact .inr (.inr ⟨count, more, fun later beyond => (same later beyond).symm⟩)

/-- Every place has lanes, and the places of an item differ in them. -/
structure Placed : Prop where
  something : ∀ item, ∀ place ∈ knapsack.places item, knapsack.mask place ≠ 0
  apart : ∀ item, ∀ first ∈ knapsack.places item, ∀ second ∈ knapsack.places item,
    knapsack.mask first = knapsack.mask second → first = second

variable {knapsack} {seed used : BitVec w} {capacity count : ℕ}

namespace Packing

variable {chosen : Finset ℕ} {place : ℕ → Place}
  (packing : knapsack.Packing seed capacity count chosen place)

include packing

/-- A packing of the first items has nothing of the others. -/
theorem code_beyond {item : ℕ} (beyond : count ≤ item) : knapsack.code chosen place item = 0 :=
  if_neg fun member => absurd (packing.within item member) (Nat.not_lt.mpr beyond)

/-- The items of a packing are those with a code. -/
theorem mem_iff_code (placed : knapsack.Placed) {item : ℕ} :
    item ∈ chosen ↔ knapsack.code chosen place item ≠ 0 := by
  unfold code
  split_ifs with member
  · refine iff_of_true member fun zero => placed.something item _ (packing.placed item member) ?_
    exact BitVec.eq_of_toNat_eq zero
  · exact iff_of_false member (not_not.mpr rfl)

end Packing

/-- The code of the other items does not change when one is left out. -/
theorem code_erase {chosen : Finset ℕ} {place : ℕ → Place} {item other : ℕ}
    (different : other ≠ item) :
    knapsack.code (chosen.erase item) place other = knapsack.code chosen place other := by
  unfold code
  exact if_congr (Finset.mem_erase.trans (and_iff_right different)) rfl rfl

/-- The code of the other items does not change when one is added. -/
theorem code_insert {chosen : Finset ℕ} {place : ℕ → Place} {item other : ℕ} {here : Place}
    (different : other ≠ item) :
    knapsack.code (insert item chosen) (Function.update place item here) other =
      knapsack.code chosen place other := by
  unfold code
  rw [Function.update_of_ne different]
  exact if_congr (Finset.mem_insert.trans (or_iff_right different)) rfl rfl

section Lawful

variable [AddCommMonoid Value] [LinearOrder Value] {value : State → Value}
  {chosen : State → Finset ℕ} {load : State → ℕ} {gain : ℕ → Place → Value} {start state : State}

/-- A packing that leads: no packing is worth more, none that is worth as much is on lower lanes,
and none that is worth as much on the same lanes precedes it. -/
structure Leading (knapsack : MaskKnapsack Place State w) (seed : BitVec w) (capacity count : ℕ)
    (gain : ℕ → Place → Value) (used : BitVec w) (items : Finset ℕ) (place : ℕ → Place) :
    Prop where
  packing : knapsack.Packing seed capacity count items place
  uses : knapsack.usedLanes seed items place = lanes used
  most : ∀ others other, knapsack.Packing seed capacity count others other →
    ∑ item ∈ others, gain item (other item) ≤ ∑ item ∈ items, gain item (place item)
  lowest : ∀ others other otherUsed, knapsack.Packing seed capacity count others other →
    knapsack.usedLanes seed others other = lanes otherUsed →
    ∑ item ∈ others, gain item (other item) = ∑ item ∈ items, gain item (place item) →
      used.toNat ≤ otherUsed.toNat
  first : ∀ others other, knapsack.Packing seed capacity count others other →
    knapsack.usedLanes seed others other = lanes used →
    ∑ item ∈ others, gain item (other item) = ∑ item ∈ items, gain item (place item) →
      ¬ Precedes (knapsack.code others other) (knapsack.code items place)

/-- **One choice leads.** Two leading packings are on the same lanes and choose the same items. -/
theorem Leading.unique (placed : knapsack.Placed) {firstUsed secondUsed : BitVec w}
    {first second : Finset ℕ} {place other : ℕ → Place}
    (leads : knapsack.Leading seed capacity count gain firstUsed first place)
    (also : knapsack.Leading seed capacity count gain secondUsed second other) :
    firstUsed = secondUsed ∧ first = second := by
  have worth := le_antisymm (also.most _ _ leads.packing) (leads.most _ _ also.packing)
  have same : firstUsed = secondUsed := by
    apply BitVec.eq_of_toNat_eq
    exact le_antisymm (leads.lowest _ _ _ also.packing also.uses worth.symm)
      (also.lowest _ _ _ leads.packing leads.uses worth)
  subst same
  refine ⟨rfl, ?_⟩
  have codes : knapsack.code first place = knapsack.code second other := by
    rcases precedes_total fun item beyond => (leads.packing.code_beyond beyond).trans
        (also.packing.code_beyond beyond).symm with equal | before | behind
    · exact equal
    · exact absurd before (also.first _ _ leads.packing leads.uses worth)
    · exact absurd behind (leads.first _ _ also.packing also.uses worth.symm)
  ext item
  rw [leads.packing.mem_iff_code placed, also.packing.mem_iff_code placed, codes]

/-- The packing that a state stands for: on its lanes, and the first of those that are worth as
much. -/
structure Stands (knapsack : MaskKnapsack Place State w) (seed : BitVec w) (capacity count : ℕ)
    (gain : ℕ → Place → Value) (used : BitVec w) (items : Finset ℕ) (place : ℕ → Place) :
    Prop where
  packing : knapsack.Packing seed capacity count items place
  uses : knapsack.usedLanes seed items place = lanes used
  first : ∀ others other, knapsack.Packing seed capacity count others other →
    knapsack.usedLanes seed others other = lanes used →
    ∑ item ∈ others, gain item (other item) = ∑ item ∈ items, gain item (place item) →
      ¬ Precedes (knapsack.code others other) (knapsack.code items place)

omit [LinearOrder Value] in
/-- A packing that leaves out the next item stands as it did. With the next item, no packing
precedes one without it. -/
theorem Stands.keep (placed : knapsack.Placed) {items : Finset ℕ} {place : ℕ → Place}
    (stands : knapsack.Stands seed capacity count gain used items place) :
    knapsack.Stands seed capacity (count + 1) gain used items place := by
  refine ⟨stands.packing.mono (Nat.le_succ count), stands.uses, ?_⟩
  rintro others other packing uses same ⟨item, less, later⟩
  by_cases taken : count ∈ others
  · rcases Nat.lt_or_ge item count with before | beyond
    · refine absurd (later count before) ?_
      rw [stands.packing.code_beyond le_rfl]
      exact (packing.mem_iff_code placed).mp taken
    · rw [stands.packing.code_beyond beyond] at less
      exact absurd less (Nat.not_lt_zero _)
  · exact stands.first others other (packing.of_notMem taken) uses same ⟨item, less, later⟩

/-- What precedes a choice with one more item does not have that item on higher lanes, and with
the item on the same lanes it precedes the choice without it. -/
theorem precedes_insert {items others : Finset ℕ} {place other : ℕ → Place} {here : Place}
    (packing : knapsack.Packing seed capacity count items place)
    (beside : knapsack.Packing seed capacity (count + 1) others other)
    (precedes : Precedes (knapsack.code others other)
      (knapsack.code (insert count items) (Function.update place count here))) :
    knapsack.code others other count < (knapsack.mask here).toNat ∨
      (knapsack.code others other count = (knapsack.mask here).toNat ∧
        Precedes (knapsack.code (others.erase count) other) (knapsack.code items place)) := by
  have last : knapsack.code (insert count items) (Function.update place count here) count =
      (knapsack.mask here).toNat := by
    unfold code
    rw [if_pos (Finset.mem_insert_self count items), Function.update_self]
  obtain ⟨item, less, later⟩ := precedes
  rcases lt_trichotomy item count with before | rfl | beyond
  · refine .inr ⟨(later count before).trans last, item, ?_, fun following after => ?_⟩
    · rwa [code_erase before.ne, ← @code_insert _ _ _ knapsack items place count item here
        before.ne]
    · rcases eq_or_ne following count with rfl | different
      · rw [packing.code_beyond le_rfl]
        exact if_neg (Finset.notMem_erase following others)
      · rw [code_erase different, later following after, code_insert different]
  · rw [last] at less
    exact .inl less
  · rw [code_insert beyond.ne', packing.code_beyond beyond.le] at less
    exact absurd less (Nat.not_lt_zero _)

/-- Of two sources of a mask, the one with the lower place is the higher. -/
theorem toNat_source {first second added other : BitVec w} (free : first &&& added = 0)
    (disjoint : second &&& other = 0) (joined : second ||| other = first ||| added)
    (lower : other.toNat < added.toNat) : first.toNat < second.toNat := by
  have whole := congrArg BitVec.toNat joined
  rw [← BitVec.add_eq_or_of_and_eq_zero _ _ disjoint, ← BitVec.add_eq_or_of_and_eq_zero _ _ free,
    BitVec.toNat_add_of_and_eq_zero disjoint, BitVec.toNat_add_of_and_eq_zero free] at whole
  omega

/-- A mask comes from one source with the same place only. -/
theorem eq_source {first second added : BitVec w} (free : first &&& added = 0)
    (disjoint : second &&& added = 0) (joined : second ||| added = first ||| added) :
    second = first := by
  have whole := congrArg BitVec.toNat joined
  rw [← BitVec.add_eq_or_of_and_eq_zero _ _ disjoint, ← BitVec.add_eq_or_of_and_eq_zero _ _ free,
    BitVec.toNat_add_of_and_eq_zero disjoint, BitVec.toNat_add_of_and_eq_zero free] at whole
  exact BitVec.eq_of_toNat_eq (Nat.add_right_cancel whole)

/-- A sweep from the highest mask on down comes to a higher mask earlier. -/
theorem mem_of_higher {earlier later : List (BitVec w)} {source other : BitVec w}
    (split : (allMasks w).reverse = earlier ++ source :: later)
    (higher : source.toNat < other.toNat) : other ∈ earlier := by
  have descending := List.pairwise_reverse.mpr (@allMasks_ascending w)
  have member := List.mem_reverse.mpr (mem_allMasks other)
  rw [split] at descending member
  have lower := (List.pairwise_cons.mp (List.pairwise_append.mp descending).2.1).1
  rcases List.mem_append.mp member with before | here
  · exact before
  · rcases List.mem_cons.mp here with rfl | behind
    · exact absurd higher (lt_irrefl _)
    · exact absurd higher (Nat.lt_asymm (lower other behind))

variable [IsOrderedCancelAddMonoid Value] [Nonempty Place]

/-- **The table keeps the first.** Every state stands for the first of the packings on its lanes
that are worth as much. -/
theorem Lawful.solve_first (lawful : knapsack.Lawful capacity value chosen load gain)
    (placed : knapsack.Placed) (nothing : chosen start = ∅)
    (loaded : load start = LaneMask.count seed) (fits : LaneMask.count seed ≤ capacity)
    (found : (knapsack.solve count (seeded seed start)).value used = some state) :
    ∃ place, knapsack.Stands seed capacity count gain used (chosen state) place ∧
      value state = value start + ∑ item ∈ chosen state, gain item (place item) ∧
      load state = LaneMask.count used := by
  induction count generalizing used state with
  | zero =>
      obtain ⟨place, packing, uses, worth, load⟩ :=
        lawful.solve_sound nothing loaded fits found
      refine ⟨place, ⟨packing, uses, ?_⟩, worth, load⟩
      rintro others other - - - ⟨item, less, -⟩
      rw [packing.code_beyond (Nat.zero_le item)] at less
      exact absurd less (Nat.not_lt_zero _)
  | succ count ih =>
      rw [solve_succ] at found
      rcases sweep_split lawful.keeps (forward_offers count)
          (knapsack.solve count (seeded seed start)) used with
        old | ⟨earlier, source, after, kept, split, offered, beaten, stays, passed⟩
      · obtain ⟨place, stands, worth, load⟩ := ih (old.symm.trans found)
        exact ⟨place, stands.keep placed, worth, load⟩
      · change (used, (knapsack.consider count _).value used) ∈ _ at offered
        change beatsOption knapsack.better ((knapsack.consider count _).value used) _ = _ at beaten
        rw [found] at offered beaten
        obtain ⟨before, here, keptBefore, member, free, admits, rfl, rfl⟩ := mem_offers.mp offered
        obtain ⟨place, stands, worth, loaded'⟩ := ih keptBefore
        obtain ⟨packing, uses, worth', load'⟩ :=
          lawful.insert stands.packing stands.uses worth loaded' member free admits
        refine ⟨_, ⟨packing, uses, ?_⟩, worth', load'⟩
        intro others other beside otherUses same precedes
        -- Nothing that has been proposed before is worth as much as the new state.
        have strict {proposal : State}
            (unbeaten : beatsOption knapsack.better (some proposal) kept = false)
            (reaches : value start + ∑ item ∈ others, gain item (other item) ≤ value proposal) :
            False := by
          obtain ⟨held, rfl, more⟩ := le_of_unbeaten lawful.better_iff unbeaten
          have less := (lawful.better_iff _ held).mp beaten
          rw [worth', ← same] at less
          exact absurd (less.trans_le reaches) (not_lt.mpr more)
        by_cases taken : count ∈ others
        · obtain ⟨source', disjoint, joined⟩ := beside.source_lanes taken otherUses
          obtain ⟨old, foundOld, least⟩ :=
            lawful.solve_best nothing loaded fits beside.erase source'
          have proposed := lawful.offered nothing loaded fits beside taken otherUses foundOld
          rw [lawful.chosen_extend] at precedes same
          rcases precedes_insert stands.packing beside precedes with lower | ⟨equal, precedes⟩
          · -- The other packing's last item has been proposed from a higher mask.
            rw [code, if_pos taken] at lower
            refine strict (passed _ ?_ _ proposed) ?_
            · exact mem_of_higher split (toNat_source free disjoint joined lower)
            · rw [worth_erase _ gain taken, lawful.value_extend]
              exact add_le_add_left least _
          · -- The two packings differ before the last item.
            rw [code, if_pos taken] at equal
            have place_eq : other count = here := placed.apart count _
              (beside.placed count taken) _ member (BitVec.eq_of_toNat_eq equal)
            rw [place_eq] at disjoint joined source'
            rw [eq_source free disjoint joined] at source'
            refine stands.first (others.erase count) other beside.erase source' ?_ precedes
            rw [← Finset.sum_erase_add _ _ taken, place_eq,
              Finset.sum_insert stands.packing.notMem, Function.update_self,
              Packing.sum_update stands.packing.notMem here gain,
              add_comm (gain count here)] at same
            exact add_right_cancel same
        · obtain ⟨old, foundOld, least⟩ :=
            lawful.solve_best nothing loaded fits (beside.of_notMem taken) otherUses
          rw [foundOld] at stays
          exact strict stays least

omit [IsOrderedCancelAddMonoid Value] [Nonempty Place] in
/-- No other state that is worth as much is on lower lanes than the best. Masks are offered in
ascending order, and an equal worth does not replace what is there. -/
theorem Lawful.best_lowest (lawful : knapsack.Lawful capacity value chosen load gain)
    {table : ValueTable (BitVec w) (Option State)} {best : State}
    (named : (knapsack.best table).1 = some best) (found : table.value used = some state)
    (same : value state = value best) : (knapsack.best table).2.toNat ≤ used.toNat := by
  let beats : Option State × BitVec w → Option State × BitVec w → Bool :=
    fun found kept => beatsOption knapsack.better found.1 kept.1
  have keeps : Keeps beats := ⟨fun found => lawful.keeps.not_self found.1,
    fun newer older found => lawful.keeps.kept newer.1 older.1 found.1⟩
  let entries := (allMasks w).map fun used => (table.value used, used)
  have source : knapsack.best table = (none, 0) ∨ ∃ before after,
      entries = before ++ knapsack.best table :: after ∧
        beats (knapsack.best table) (strongest beats (none, 0) before) = true :=
    strongest_split (none, 0) entries
  rcases source with nothing | ⟨before, after, split, beaten⟩
  · rw [nothing] at named
    exact nomatch named
  · by_contra below
    have ascending : entries.Pairwise fun lower higher => lower.2.toNat < higher.2.toNat :=
      List.pairwise_map.mpr allMasks_ascending
    have member : (table.value used, used) ∈ entries :=
      List.mem_map.mpr ⟨used, mem_allMasks used, rfl⟩
    rw [split] at ascending member
    have higher := (List.pairwise_cons.mp (List.pairwise_append.mp ascending).2.1).1
    rcases List.mem_append.mp member with earlier | here
    · have unbeaten : beats (table.value used, used) (strongest beats (none, 0) before) = false :=
        strongest_beats keeps earlier
      change beatsOption knapsack.better (table.value used) _ = false at unbeaten
      change beatsOption knapsack.better (knapsack.best table).1 _ = true at beaten
      rw [found] at unbeaten
      rw [named] at beaten
      obtain ⟨kept, holds, more⟩ := le_of_unbeaten lawful.better_iff unbeaten
      rw [holds] at beaten
      exact absurd ((lawful.better_iff best kept).mp beaten) (not_lt.mpr (same ▸ more))
    · rcases List.mem_cons.mp here with own | behind
      · exact below (le_of_eq (congrArg (fun entry => entry.2.toNat) own).symm)
      · exact below (higher _ behind).le

/-- **The best state leads.** It stands for the leading packing, on the lanes it is found at. -/
theorem Lawful.best_leading (lawful : knapsack.Lawful capacity value chosen load gain)
    (placed : knapsack.Placed) (nothing : chosen start = ∅)
    (loaded : load start = LaneMask.count seed) (fits : LaneMask.count seed ≤ capacity) :
    let outcome := knapsack.best (knapsack.solve count (seeded seed start))
    ∃ best place, outcome.1 = some best ∧
      knapsack.Leading seed capacity count gain outcome.2 (chosen best) place ∧
      value best = value start + ∑ item ∈ chosen best, gain item (place item) ∧
      load best = LaneMask.count outcome.2 := by
  intro outcome
  obtain ⟨place⟩ : Nonempty (ℕ → Place) := inferInstance
  -- Every packing has a state, and the best one is worth as much at least.
  have reaches (others : Finset ℕ) (other : ℕ → Place) (otherUsed : BitVec w)
      (beside : knapsack.Packing seed capacity count others other)
      (uses : knapsack.usedLanes seed others other = lanes otherUsed) :
      ∃ state best, (knapsack.solve count (seeded seed start)).value otherUsed = some state ∧
        outcome.1 = some best ∧
        (knapsack.solve count (seeded seed start)).value outcome.2 = some best ∧
        value start + ∑ item ∈ others, gain item (other item) ≤ value state ∧
        value state ≤ value best := by
    obtain ⟨state, found, least⟩ := lawful.solve_best nothing loaded fits beside uses
    obtain ⟨best, named, there, more⟩ := lawful.best_spec found
    exact ⟨state, best, found, named, there, least, more⟩
  obtain ⟨-, best, -, named, there, -⟩ := reaches ∅ place seed (.empty fits)
    (by rw [usedLanes, Finset.biUnion_empty, Finset.union_empty])
  obtain ⟨place, stands, worth, load⟩ := lawful.solve_first placed nothing loaded fits there
  refine ⟨best, place, named, ⟨stands.packing, stands.uses, ?_, ?_, stands.first⟩, worth, load⟩
  · intro others other beside
    obtain ⟨state, best', -, named', -, least, more⟩ := reaches others other
      (maskOf (knapsack.usedLanes seed others other).toList) beside
      (by rw [lanes_maskOf, Finset.toList_toFinset])
    obtain rfl := Option.some.inj (named.symm.trans named')
    rw [worth] at more
    exact le_of_add_le_add_left (least.trans more)
  · intro others other otherUsed beside uses same
    obtain ⟨state, best', found, named', -, least, more⟩ := reaches others other otherUsed beside uses
    obtain rfl := Option.some.inj (named.symm.trans named')
    refine lawful.best_lowest named found (le_antisymm more ?_)
    rwa [worth, ← same]

end Lawful

end MaskKnapsack

end M3Midi.Foundation
