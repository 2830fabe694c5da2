import Mathlib.Data.List.Induction
import Mathlib.Order.Lattice

/-! # Insertion from the back of a sequence

An item enters a sequence at the back and moves towards the front past every
item it precedes, stopping at the first one it does not precede. Items that
precede each other neither way keep their order of arrival.
-/

namespace M3Midi.Foundation

variable {Item : Type*}

/-- Insertion into a sequence that is given from its back to its front. -/
def insertReversed (before : Item → Item → Bool) (item : Item) : List Item → List Item
  | [] => [item]
  | last :: rest =>
      if before item last then last :: insertReversed before item rest
      else item :: last :: rest

/-- Insertion of an item that arrives at the back of a sequence. -/
def insertFromBack (before : Item → Item → Bool) (item : Item) (items : List Item) : List Item :=
  (insertReversed before item items.reverse).reverse

variable {before : Item → Item → Bool}

/-- An insertion adds the item and reorders nothing else away. -/
private theorem insertReversed_perm (item : Item) (items : List Item) :
    (insertReversed before item items).Perm (item :: items) := by
  induction items with
  | nil => exact List.Perm.refl _
  | cons last rest ih =>
      rw [insertReversed]
      split
      · exact (ih.cons last).trans (List.Perm.swap item last rest)
      · exact List.Perm.refl _

/-- Insertion only adds the inserted item. -/
theorem insertFromBack_perm (item : Item) (items : List Item) :
    (insertFromBack before item items).Perm (item :: items) :=
  (List.reverse_perm _).trans
    ((insertReversed_perm item items.reverse).trans ((List.reverse_perm items).cons item))

/-- After an insertion there are the item and the others. -/
theorem mem_insertFromBack {item other : Item} {items : List Item} :
    other ∈ insertFromBack before item items ↔ other = item ∨ other ∈ items := by
  rw [(insertFromBack_perm item items).mem_iff, List.mem_cons]

/-- An insertion makes the list longer by one. -/
theorem length_insertFromBack (item : Item) (items : List Item) :
    (insertFromBack before item items).length = items.length + 1 :=
  (insertFromBack_perm item items).length_eq

/-- An item that is inserted into a list in order leaves it in order, if the comparison is
transitive and asymmetric. -/
private theorem insertReversed_pairwise
    (transitive : ∀ first second third, before second first = false →
      before third second = false → before third first = false)
    (asymmetric : ∀ first second, before first second = true → before second first = false)
    {item : Item} {items : List Item}
    (sorted : items.Pairwise fun later earlier => before later earlier = false) :
    (insertReversed before item items).Pairwise fun later earlier =>
      before later earlier = false := by
  induction items with
  | nil => exact List.pairwise_singleton _ item
  | cons last rest ih =>
      obtain ⟨below, rest_sorted⟩ := List.pairwise_cons.mp sorted
      rw [insertReversed]
      split
      · next passes =>
          refine List.pairwise_cons.mpr ⟨fun other member => ?_, ih rest_sorted⟩
          rcases List.mem_cons.mp ((insertReversed_perm item rest).mem_iff.mp member) with
            rfl | earlier
          · exact asymmetric other last passes
          · exact below other earlier
      · next stops =>
          have stopped : before item last = false := Bool.eq_false_iff.mpr stops
          refine List.pairwise_cons.mpr ⟨fun other member => ?_, sorted⟩
          rcases List.mem_cons.mp member with rfl | earlier
          · exact stopped
          · exact transitive other last item (below other earlier) stopped

/-- Inserting into a sorted sequence keeps it sorted. -/
theorem insertFromBack_pairwise
    (transitive : ∀ first second third, before second first = false →
      before third second = false → before third first = false)
    (asymmetric : ∀ first second, before first second = true → before second first = false)
    {item : Item} {items : List Item}
    (sorted : items.Pairwise fun earlier later => before later earlier = false) :
    (insertFromBack before item items).Pairwise fun earlier later =>
      before later earlier = false :=
  List.pairwise_reverse.mpr (insertReversed_pairwise transitive asymmetric
    (List.pairwise_reverse.mpr sorted))

/-- An insertion goes no further than the first item it does not come before. -/
private theorem insertReversed_append {item : Item} {back front : List Item}
    (stops : ∀ other ∈ front, before item other = false) :
    insertReversed before item (back ++ front) = insertReversed before item back ++ front := by
  induction back with
  | nil =>
      cases front with
      | nil => rfl
      | cons last rest =>
          change insertReversed before item (last :: rest) = item :: last :: rest
          rw [insertReversed, stops last List.mem_cons_self]
          rfl
  | cons last rest ih =>
      rw [List.cons_append, insertReversed, insertReversed, ih]
      split_ifs <;> rfl

/-- An item stays behind a front that it does not precede. -/
theorem insertFromBack_append {item : Item} {front back : List Item}
    (stops : ∀ other ∈ front, before item other = false) :
    insertFromBack before item (front ++ back) = front ++ insertFromBack before item back := by
  have stopped : ∀ other ∈ front.reverse, before item other = false := by
    intro other member
    exact stops other (List.mem_reverse.mp member)
  rw [insertFromBack, List.reverse_append, insertReversed_append stopped, List.reverse_append,
    List.reverse_reverse]
  rfl

/-- An insertion commutes with a renaming that keeps the comparison. -/
private theorem insertReversed_map {Other : Type*} {order : Other → Other → Bool}
    {rename : Item → Other} {item : Item} {items : List Item}
    (same : ∀ other ∈ items, order (rename item) (rename other) = before item other) :
    insertReversed order (rename item) (items.map rename) =
      (insertReversed before item items).map rename := by
  induction items with
  | nil => rfl
  | cons last rest ih =>
      rw [List.map_cons, insertReversed, insertReversed, same last List.mem_cons_self,
        ih fun other member => same other (List.mem_cons_of_mem _ member)]
      split_ifs <;> rfl

/-- Items that are renamed in keeping with the order are inserted alike. -/
theorem insertFromBack_map {Other : Type*} {order : Other → Other → Bool}
    {rename : Item → Other} {item : Item} {items : List Item}
    (same : ∀ other ∈ items, order (rename item) (rename other) = before item other) :
    insertFromBack order (rename item) (items.map rename) =
      (insertFromBack before item items).map rename := by
  have reversed : ∀ other ∈ items.reverse,
      order (rename item) (rename other) = before item other := by
    intro other member
    exact same other (List.mem_reverse.mp member)
  rw [insertFromBack, ← List.map_reverse, insertReversed_map reversed, ← List.map_reverse]
  rfl

/-- The items of a sequence, inserted one after the other. -/
def insertAll (before : Item → Item → Bool) (items : List Item) : List Item :=
  items.foldl (fun sorted item => insertFromBack before item sorted) []

@[simp] theorem insertAll_nil : insertAll before [] = [] := rfl

/-- One more item is inserted into what the others have come to. -/
theorem insertAll_concat (items : List Item) (item : Item) :
    insertAll before (items ++ [item]) = insertFromBack before item (insertAll before items) := by
  rw [insertAll, List.foldl_append]
  rfl

/-- Nothing is lost or added. -/
theorem insertAll_perm (items : List Item) : (insertAll before items).Perm items := by
  induction items using List.reverseRecOn with
  | nil => exact List.Perm.refl []
  | append_singleton items item ih =>
      rw [insertAll_concat]
      exact (insertFromBack_perm item _).trans
        ((ih.cons item).trans (List.perm_append_singleton item items).symm)

/-- The result is sorted. -/
theorem insertAll_pairwise
    (transitive : ∀ first second third, before second first = false →
      before third second = false → before third first = false)
    (asymmetric : ∀ first second, before first second = true → before second first = false)
    (items : List Item) :
    (insertAll before items).Pairwise fun earlier later => before later earlier = false := by
  induction items using List.reverseRecOn with
  | nil => exact List.Pairwise.nil
  | append_singleton items item ih =>
      rw [insertAll_concat]
      exact insertFromBack_pairwise transitive asymmetric ih

/-- Two orders that agree on the items sort them alike. -/
theorem insertAll_congr {order : Item → Item → Bool} {items : List Item}
    (same : ∀ item ∈ items, ∀ other ∈ items, order item other = before item other) :
    insertAll order items = insertAll before items := by
  induction items using List.reverseRecOn with
  | nil => rfl
  | append_singleton items item ih =>
      have alike := ih fun first here second there =>
        same first (List.mem_append_left _ here) second (List.mem_append_left _ there)
      have inserted := @insertFromBack_map Item before Item order id item (insertAll before items)
        fun other member => same item (List.mem_append_right _ (List.mem_singleton_self item)) other
          (List.mem_append_left _ ((insertAll_perm items).mem_iff.mp member))
      rw [List.map_id, List.map_id] at inserted
      rw [insertAll_concat, insertAll_concat, alike]
      exact inserted

/-- The items in the order of a key; items with equal keys stay in their order of arrival. -/
structure StablySorted {Key : Type*} [LinearOrder Key] (key : Item → Key)
    (items sorted : List Item) : Prop where
  perm : sorted.Perm items
  ordered : sorted.Pairwise fun earlier later => key earlier ≤ key later
  arrival : ∀ value, sorted.filter (fun item => decide (key item = value)) =
    items.filter fun item => decide (key item = value)

section Key

variable {Key : Type*} [LinearOrder Key] {key : Item → Key}

/-- Items of one key keep the order in which they were inserted. -/
private theorem insertReversed_filter (by_key : ∀ first second,
      before first second = true ↔ key first < key second) (item : Item) (items : List Item)
    (value : Key) :
    (insertReversed before item items).filter (fun other => decide (key other = value)) =
      [item].filter (fun other => decide (key other = value)) ++
        items.filter fun other => decide (key other = value) := by
  induction items with
  | nil => rw [insertReversed, List.filter_nil, List.append_nil]
  | cons last rest ih =>
      rw [insertReversed]
      split
      · next passes =>
          have below := (by_key item last).mp passes
          rw [List.filter_cons, ih]
          split_ifs with here
          · rw [decide_eq_true_eq] at here
            have other : ¬ key item = value := fun same => absurd (same.trans here.symm) (ne_of_lt below)
            rw [List.filter_cons_of_neg (by simpa using other), List.filter_nil, List.nil_append,
              List.nil_append, List.filter_cons_of_pos (by simpa using here)]
          · rw [List.filter_cons (x := last), if_neg here]
      · rw [List.filter_cons, List.filter_cons (x := item), List.filter_nil]
        split_ifs <;> rfl

/-- Insertion from the back is a stable sort. -/
theorem insertAll_stablySorted
    (by_key : ∀ first second, before first second = true ↔ key first < key second)
    (items : List Item) : StablySorted key items (insertAll before items) where
  perm := insertAll_perm items
  ordered := by
    have not_before : ∀ first second, before first second = false ↔ key second ≤ key first := by
      intro first second
      rw [Bool.eq_false_iff, Ne, by_key, not_lt]
    refine (insertAll_pairwise ?_ ?_ items).imp fun sorted => (not_before _ _).mp sorted
    · intro first second third lower upper
      rw [not_before] at lower upper ⊢
      exact le_trans lower upper
    · intro first second passes
      exact (not_before second first).mpr (le_of_lt ((by_key first second).mp passes))
  arrival := by
    intro value
    induction items using List.reverseRecOn with
    | nil => rfl
    | append_singleton items item ih =>
        rw [insertAll_concat, insertFromBack, List.filter_reverse, insertReversed_filter by_key,
          List.filter_append, List.reverse_append, List.filter_reverse, List.reverse_reverse, ih]
        congr 1
        rw [List.filter_cons, List.filter_nil]
        split_ifs <;> rfl

end Key

end M3Midi.Foundation
