import Mathlib.Data.Fintype.Card
import Mathlib.Data.List.FinRange
import Mathlib.Data.Multiset.Filter

/-! # Fixed arrays of slots

A fixed array of slots holds, for each occupied slot, one key. Filling a free
slot adds its key to the multiset of held keys and clearing an occupied slot
removes it; a slot rewritten under the same key changes nothing. Searches scan
the slots in index order and return the first match.
-/

namespace M3Midi.Foundation

variable {n : Nat} {Slot Key : Type*}

/-- The slots of an array, without their order. -/
def contents (slots : Fin n → Slot) : Multiset Slot := Finset.univ.val.map slots

/-- Rewriting a slot exchanges its old content for the new one. -/
theorem contents_update (slots : Fin n → Slot) (index : Fin n) (slot : Slot) :
    slots index ::ₘ contents (Function.update slots index slot) = slot ::ₘ contents slots := by
  have split : (Finset.univ : Finset (Fin n)).val =
      index ::ₘ (Finset.univ.erase index).val := by
    rw [← Finset.insert_val_of_notMem (Finset.notMem_erase index _),
      Finset.insert_erase (Finset.mem_univ index)]
  have others : (Finset.univ.erase index).val.map (Function.update slots index slot) =
      (Finset.univ.erase index).val.map slots := by
    refine Multiset.map_congr rfl fun other member => ?_
    exact Function.update_of_ne (Finset.ne_of_mem_erase (Finset.mem_val.mp member)) slot slots
  unfold contents
  rw [split, Multiset.map_cons, Multiset.map_cons, others, Function.update_self,
    Multiset.cons_swap]

/-- The keys of the occupied slots; `key` gives none for a free slot. -/
def heldKeys (key : Slot → Option Key) (slots : Fin n → Slot) : Multiset Key :=
  (contents slots).filterMap key

variable {key : Slot → Option Key}

/-- The keys that are held are those of the slots. -/
theorem mem_heldKeys {slots : Fin n → Slot} {item : Key} :
    item ∈ heldKeys key slots ↔ ∃ index, key (slots index) = some item := by
  simp [heldKeys, contents]

/-- A slot that is replaced takes its own keys out and puts the new ones in. -/
private theorem filterMap_contents_update (key : Slot → Option Key) (slots : Fin n → Slot)
    (index : Fin n) (slot : Slot) :
    (slots index ::ₘ contents (Function.update slots index slot)).filterMap key =
      (slot ::ₘ contents slots).filterMap key :=
  congrArg _ (contents_update slots index slot)

/-- Filling a free slot holds one more key. -/
theorem heldKeys_fill {slots : Fin n → Slot} {index : Fin n} {slot : Slot} {item : Key}
    (free : key (slots index) = none) (filled : key slot = some item) :
    heldKeys key (Function.update slots index slot) = item ::ₘ heldKeys key slots := by
  have exchanged := filterMap_contents_update key slots index slot
  rwa [Multiset.filterMap_cons_none _ _ free, Multiset.filterMap_cons_some _ _ _ filled]
    at exchanged

/-- Clearing an occupied slot gives up its key. -/
theorem heldKeys_clear {slots : Fin n → Slot} {index : Fin n} {slot : Slot} {item : Key}
    (occupied : key (slots index) = some item) (cleared : key slot = none) :
    item ::ₘ heldKeys key (Function.update slots index slot) = heldKeys key slots := by
  have exchanged := filterMap_contents_update key slots index slot
  rwa [Multiset.filterMap_cons_some _ _ _ occupied, Multiset.filterMap_cons_none _ _ cleared]
    at exchanged

/-- Rewriting every slot without changing its key holds the same keys. -/
theorem heldKeys_congr {first second : Fin n → Slot}
    (same : ∀ index, key (first index) = key (second index)) :
    heldKeys key first = heldKeys key second := by
  unfold heldKeys contents
  rw [Multiset.filterMap_map, Multiset.filterMap_map]
  exact congrArg (fun keys => Multiset.filterMap keys Finset.univ.val) (funext same)

/-- There are as many keys as there are items with a key. -/
private theorem card_filterMap_eq (key : Slot → Option Key) (items : Multiset Slot) :
    (items.filterMap key).card = (items.filter fun item => (key item).isSome).card := by
  induction items using Multiset.induction_on with
  | empty => rfl
  | cons item items ih =>
      cases held : key item with
      | none =>
          rw [Multiset.filterMap_cons_none _ _ held, Multiset.filter_cons_of_neg _ (by simp [held])]
          exact ih
      | some found =>
          rw [Multiset.filterMap_cons_some _ _ _ held, Multiset.filter_cons_of_pos _ (by simp [held]),
            Multiset.card_cons, Multiset.card_cons, ih]

/-- Each occupied slot holds one key. -/
theorem card_heldKeys (slots : Fin n → Slot) :
    (heldKeys key slots).card =
      (Finset.univ.filter fun index => (key (slots index)).isSome).card := by
  rw [heldKeys, contents, Multiset.filterMap_map, card_filterMap_eq]
  rfl

/-- No more keys are held than there are slots. -/
theorem card_heldKeys_le (slots : Fin n → Slot) : (heldKeys key slots).card ≤ n := by
  rw [card_heldKeys]
  exact (Finset.card_le_univ _).trans (Fintype.card_fin n).le

/-- The first slot, in index order, that satisfies a test. -/
def firstSlot (test : Fin n → Bool) : Option (Fin n) := (List.finRange n).find? test

/-- The first slot that is found passes the test. -/
theorem firstSlot_spec {test : Fin n → Bool} {index : Fin n}
    (found : firstSlot test = some index) : test index = true :=
  List.find?_some found

/-- None is found exactly if no slot passes it. -/
theorem firstSlot_eq_none {test : Fin n → Bool} :
    firstSlot test = none ↔ ∀ index, test index = false := by
  simp [firstSlot, List.find?_eq_none]

end M3Midi.Foundation
