import Mathlib.Data.List.Pairwise
import Mathlib.Order.Lattice

/-! # Merging two sources by a key

A log takes items from a sorted source and, between them, items of its own. Before an
item of its own it takes from what the source holds up to that item's key. As long as the
own items come in the order of their keys, the log is sorted at the end.
-/

namespace M3Midi.Foundation

variable {Item Key : Type*} [LinearOrder Key]

/-- The items stand in the order of their keys. -/
def KeySorted (key : Item → Key) (items : List Item) : Prop :=
  items.Pairwise fun first second => key first ≤ key second

/-- A merge under way: what the log holds comes up to a bound, what the source still
holds from it on. -/
structure Merging (key : Item → Key) (log rest : List Item) (bound : Key) : Prop where
  logged : KeySorted key log
  below : ∀ item ∈ log, key item ≤ bound
  source : KeySorted key rest
  above : ∀ item ∈ rest, bound ≤ key item

namespace Merging

variable {key : Item → Key} {log rest front back taken : List Item} {bound next : Key}

/-- A merge starts with an empty log. -/
theorem start (source : KeySorted key rest) (above : ∀ item ∈ rest, bound ≤ key item) :
    Merging key [] rest bound where
  logged := List.Pairwise.nil
  below := by
    intro item member
    exact absurd member List.not_mem_nil
  source := source
  above := above

/-- Reading the front of the source, and taking some of it, moves the bound up to the next
own item. -/
theorem take (merging : Merging key log (front ++ back) bound) (some_of : taken.Sublist front)
    (later : bound ≤ next) (due : ∀ item ∈ front, key item ≤ next)
    (kept : ∀ item ∈ back, next ≤ key item) : Merging key (log ++ taken) back next where
  logged := by
    have sorted := (List.pairwise_append.mp merging.source).1
    refine List.pairwise_append.mpr ⟨merging.logged, sorted.sublist some_of, ?_⟩
    intro first inLog second inTaken
    have inFront := List.mem_append_left back (some_of.subset inTaken)
    exact (merging.below first inLog).trans (merging.above second inFront)
  below := by
    intro item member
    rcases List.mem_append.mp member with inLog | inTaken
    · exact (merging.below item inLog).trans later
    · exact due item (some_of.subset inTaken)
  source := (List.pairwise_append.mp merging.source).2.1
  above := kept

/-- An own item at the bound goes to the end of the log. -/
theorem push (merging : Merging key log rest bound) {item : Item} (placed : key item = bound) :
    Merging key (log ++ [item]) rest bound where
  logged := by
    refine List.pairwise_append.mpr ⟨merging.logged, List.pairwise_singleton _ _, ?_⟩
    intro first inLog second inItem
    rw [List.mem_singleton.mp inItem, placed]
    exact merging.below first inLog
  below := by
    intro other member
    rcases List.mem_append.mp member with inLog | inItem
    · exact merging.below other inLog
    · rw [List.mem_singleton.mp inItem, placed]
  source := merging.source
  above := merging.above

/-- What is taken of the rest goes to the end. -/
theorem finish (merging : Merging key log rest bound) (some_of : taken.Sublist rest) :
    KeySorted key (log ++ taken) := by
  refine List.pairwise_append.mpr ⟨merging.logged, merging.source.sublist some_of, ?_⟩
  intro first inLog second inTaken
  exact (merging.below first inLog).trans (merging.above second (some_of.subset inTaken))

end Merging

end M3Midi.Foundation
