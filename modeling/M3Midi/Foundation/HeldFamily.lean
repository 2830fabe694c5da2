import Mathlib.Algebra.BigOperators.Group.Finset.Basic
import Mathlib.Algebra.BigOperators.Group.Finset.Piecewise
import Mathlib.Algebra.Order.BigOperators.Group.Finset
import Mathlib.Algebra.Order.Group.Multiset
import Mathlib.Data.Finset.Union
import Mathlib.Data.List.Induction

/-! # Families of held items

Each cell of a family holds a set of items. What the cells gain on the way from one family to
another is a multiset, the surplus; the other way round it is what they lose. Between families
whose cells hold nothing in common, the losses are items that were held, each once, and the gains
are items that no cell has kept. A loop that visits each cell once meets every cell as it was
before the loop (`M3Midi.Foundation.sweep_invariant`).
-/

namespace M3Midi.Foundation

/-- What holds before a loop and is carried by the visit of every cell, none of them visited
before, holds after the loop. -/
theorem sweep_invariant {Cell State : Type*} {step : State → Cell → State}
    {invariant : List Cell → State → Prop} {cells : List Cell} {state : State}
    (once : cells.Nodup) (start : invariant [] state)
    (next : ∀ visited cell state, cell ∉ visited → invariant visited state →
      invariant (visited ++ [cell]) (step state cell)) :
    invariant cells (cells.foldl step state) := by
  induction cells using List.reverseRecOn with
  | nil => exact start
  | append_singleton cells last ih =>
      rw [List.foldl_append, List.foldl_cons, List.foldl_nil]
      have parts := List.nodup_append.mp once
      refine next cells last _ ?_ (ih parts.1)
      intro member
      exact parts.2.2 last member last (List.mem_singleton_self last) rfl

/-- A loop whose visits leave the other cells as they are finds every cell as it was before the
loop, and leaves it as its own visit does. -/
theorem sweep_visit {Cell State Value : Type*} {step : State → Cell → State}
    {read : State → Cell → Value}
    (others : ∀ state cell other, other ≠ cell → read (step state cell) other = read state other)
    {visited rest : List Cell} {cell : Cell} (once : (visited ++ cell :: rest).Nodup)
    (state : State) :
    read (visited.foldl step state) cell = read state cell ∧
      read ((visited ++ cell :: rest).foldl step state) cell =
        read (step (visited.foldl step state) cell) cell := by
  have untouched : ∀ (cells : List Cell) (start : State), cell ∉ cells →
      read (cells.foldl step start) cell = read start cell := by
    intro cells
    induction cells with
    | nil => exact fun _ _ => rfl
    | cons first cells ih =>
        intro start outside
        rw [List.mem_cons, not_or] at outside
        rw [List.foldl_cons, ih _ outside.2, others start first cell outside.1]
  have parts := List.nodup_append.mp once
  have later := (List.nodup_cons.mp parts.2.1).1
  have earlier : cell ∉ visited := by
    intro before
    exact parts.2.2 cell before cell List.mem_cons_self rfl
  refine ⟨untouched visited state earlier, ?_⟩
  rw [List.foldl_append, List.foldl_cons]
  exact untouched rest _ later

variable {Cell Item : Type*} [Fintype Cell] [DecidableEq Item]

/-- What the cells hold in a second family and not in a first. -/
def surplus (first second : Cell → Finset Item) : Multiset Item :=
  ∑ cell, (second cell \ first cell).val

/-- What the cells hold together. -/
def heldItems (held : Cell → Finset Item) : Finset Item := Finset.univ.biUnion held

/-- No two cells hold an item in common. -/
def HeldApart (held : Cell → Finset Item) : Prop :=
  ∀ first second, first ≠ second → Disjoint (held first) (held second)

/-- Nothing is held more than by itself. -/
theorem surplus_self (held : Cell → Finset Item) : surplus held held = 0 := by
  unfold surplus
  simp

/-- A cell that has not changed yet changes what it holds. -/
theorem surplus_update [DecidableEq Cell] {before held : Cell → Finset Item} {cell : Cell}
    (unchanged : held cell = before cell) (items : Finset Item) :
    surplus before (Function.update held cell items) =
      surplus before held + (items \ held cell).val := by
  unfold surplus
  rw [← Finset.add_sum_erase _ _ (Finset.mem_univ cell),
    ← Finset.add_sum_erase Finset.univ (fun other => (held other \ before other).val)
      (Finset.mem_univ cell)]
  have others : ∑ other ∈ Finset.univ.erase cell,
      (Function.update held cell items other \ before other).val =
        ∑ other ∈ Finset.univ.erase cell, (held other \ before other).val := by
    apply Finset.sum_congr rfl
    intro other member
    rw [Function.update_of_ne (Finset.ne_of_mem_erase member)]
  have own : (held cell \ before cell).val = 0 := by
    rw [unchanged, sdiff_self]
    rfl
  rw [others, own, Function.update_self, unchanged, zero_add, add_comm]

/-- A cell that has not changed yet loses what it no longer holds. -/
theorem surplus_update_left [DecidableEq Cell] {before held : Cell → Finset Item} {cell : Cell}
    (unchanged : held cell = before cell) (items : Finset Item) :
    surplus (Function.update held cell items) before =
      surplus held before + (held cell \ items).val := by
  unfold surplus
  rw [← Finset.add_sum_erase _ _ (Finset.mem_univ cell),
    ← Finset.add_sum_erase Finset.univ (fun other => (before other \ held other).val)
      (Finset.mem_univ cell)]
  have others : ∑ other ∈ Finset.univ.erase cell,
      (before other \ Function.update held cell items other).val =
        ∑ other ∈ Finset.univ.erase cell, (before other \ held other).val := by
    apply Finset.sum_congr rfl
    intro other member
    rw [Function.update_of_ne (Finset.ne_of_mem_erase member)]
  have own : (before cell \ held cell).val = 0 := by
    rw [unchanged, sdiff_self]
    rfl
  rw [others, own, Function.update_self, unchanged, zero_add, add_comm]

/-- The cells gain no more than they hold in the end. -/
theorem card_surplus_le (first second : Cell → Finset Item) :
    (surplus first second).card ≤ ∑ cell, (second cell).card := by
  unfold surplus
  rw [Multiset.card_sum]
  apply Finset.sum_le_sum
  intro cell _
  exact Finset.card_le_card Finset.sdiff_subset

/-- A cell that keeps what it holds gains nothing. -/
theorem card_surplus_add_le {first second : Cell → Finset Item} {cell : Cell}
    (kept : first cell = second cell) :
    (surplus first second).card + (second cell).card ≤ ∑ other, (second other).card := by
  classical
  unfold surplus
  rw [Multiset.card_sum, ← Finset.add_sum_erase Finset.univ (fun other =>
      ((second other \ first other).val).card) (Finset.mem_univ cell),
    ← Finset.add_sum_erase Finset.univ (fun other => (second other).card) (Finset.mem_univ cell)]
  have own : ((second cell \ first cell).val).card = 0 := by
    rw [kept, sdiff_self]
    rfl
  have others : ∑ other ∈ Finset.univ.erase cell, ((second other \ first other).val).card ≤
      ∑ other ∈ Finset.univ.erase cell, (second other).card := by
    apply Finset.sum_le_sum
    intro other _
    exact Finset.card_le_card Finset.sdiff_subset
  omega

/-- The surplus has what some cell holds now and has not held before. -/
theorem mem_surplus {first second : Cell → Finset Item} {item : Item} :
    item ∈ surplus first second ↔ ∃ cell, item ∈ second cell ∧ item ∉ first cell := by
  unfold surplus
  rw [Multiset.mem_sum]
  constructor
  · intro ⟨cell, _, member⟩
    exact ⟨cell, Finset.mem_sdiff.mp member⟩
  · intro ⟨cell, gained⟩
    exact ⟨cell, Finset.mem_univ cell, Finset.mem_sdiff.mpr gained⟩

/-- What is held is held by some cell. -/
theorem mem_heldItems {held : Cell → Finset Item} {item : Item} :
    item ∈ heldItems held ↔ ∃ cell, item ∈ held cell := by
  unfold heldItems
  simp only [Finset.mem_biUnion, Finset.mem_univ, true_and]

/-- Cells that are apart gain no item twice. -/
theorem nodup_surplus [DecidableEq Cell] {first second : Cell → Finset Item}
    (apart : HeldApart second) : (surplus first second).Nodup := by
  have disjoint : (↑(Finset.univ : Finset Cell) : Set Cell).PairwiseDisjoint
      fun cell => second cell \ first cell := by
    intro cell _ other _ different
    exact (apart cell other different).mono Finset.sdiff_subset Finset.sdiff_subset
  have whole : surplus first second =
      (Finset.univ.disjiUnion (fun cell => second cell \ first cell) disjoint).val := rfl
  rw [whole]
  exact Finset.nodup _

/-- Where no two cells hold the same item, the numbers of their items add up. -/
theorem card_heldItems {held : Cell → Finset Item} (apart : HeldApart held) :
    (heldItems held).card = ∑ cell, (held cell).card := by
  classical
  apply Finset.card_biUnion
  intro cell _ other _ different
  exact apart cell other different

section Exchange

variable {before after : Cell → Finset Item}

/-- What is lost was held. -/
theorem lost_subset {item : Item} (lost : item ∈ surplus after before) :
    item ∈ heldItems before := by
  obtain ⟨cell, member, -⟩ := mem_surplus.mp lost
  exact mem_heldItems.mpr ⟨cell, member⟩

/-- What is gained is not among what was held and not lost. -/
theorem gained_fresh (apartAfter : HeldApart after) {item : Item}
    (gained : item ∈ surplus before after) (held : item ∈ heldItems before) :
    item ∈ surplus after before := by
  obtain ⟨cell, has, had⟩ := mem_surplus.mp gained
  obtain ⟨other, member⟩ := mem_heldItems.mp held
  refine mem_surplus.mpr ⟨other, member, fun kept => ?_⟩
  have different : cell ≠ other := by
    intro same
    subst same
    exact had member
  exact Finset.disjoint_left.mp (apartAfter cell other different) has kept

/-- What is held in the end is what was held and not lost, and what is gained. -/
theorem mem_heldItems_after (apartBefore : HeldApart before) {item : Item} :
    item ∈ heldItems after ↔
      (item ∈ heldItems before ∧ item ∉ surplus after before) ∨ item ∈ surplus before after := by
  rw [mem_heldItems, mem_heldItems, mem_surplus, mem_surplus]
  constructor
  · intro ⟨cell, has⟩
    by_cases had : item ∈ before cell
    · left
      refine ⟨⟨cell, had⟩, fun ⟨other, held, gone⟩ => ?_⟩
      have different : cell ≠ other := by
        intro same
        subst same
        exact gone has
      exact Finset.disjoint_left.mp (apartBefore cell other different) had held
    · exact .inr ⟨cell, has, had⟩
  · intro split
    rcases split with ⟨⟨cell, had⟩, kept⟩ | ⟨cell, has, -⟩
    · by_contra gone
      push Not at gone
      exact kept ⟨cell, had, gone cell⟩
    · exact ⟨cell, has⟩

end Exchange

end M3Midi.Foundation
