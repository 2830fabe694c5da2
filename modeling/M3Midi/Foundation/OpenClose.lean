import Mathlib.Algebra.Order.Group.Multiset

/-! # Logs that open and close items

A log opens items and closes items that are open. Replaying it keeps the
multiset of open items and fails as soon as an item is closed that is not open.
A log that replays closes each item exactly once for one opening, so what stays
open is the multiset difference of the openings and the closings
(`M3Midi.Foundation.opened_sub_closed_of_replay`).
-/

namespace M3Midi.Foundation

/-- One entry of a log that opens and closes items. A log is replayed on what is held, and must not
close what is not. -/
inductive Mark (Item : Type*)
  | opened (item : Item)
  | closed (item : Item)
  deriving DecidableEq, Repr

variable {Item : Type*} [DecidableEq Item]

/-- The open items after one entry; closing an item that is not open fails. -/
def settle (held : Multiset Item) : Mark Item → Option (Multiset Item)
  | .opened item => some (item ::ₘ held)
  | .closed item => if item ∈ held then some (held.erase item) else none

/-- The open items after a log, when every closing meets an open item. -/
def replay (held : Multiset Item) : List (Mark Item) → Option (Multiset Item)
  | [] => some held
  | mark :: marks => (settle held mark).bind fun next => replay next marks

/-- The items a log opens. -/
def openedItems (marks : List (Mark Item)) : Multiset Item :=
  (marks.filterMap fun
    | .opened item => some item
    | .closed _ => none : List Item)

/-- The items a log closes. -/
def closedItems (marks : List (Mark Item)) : Multiset Item :=
  (marks.filterMap fun
    | .opened _ => none
    | .closed item => some item : List Item)

@[simp] theorem replay_nil (held : Multiset Item) : replay held [] = some held := rfl

/-- A log is settled one mark after the other. -/
theorem replay_cons (held : Multiset Item) (mark : Mark Item) (marks : List (Mark Item)) :
    replay held (mark :: marks) = (settle held mark).bind fun next => replay next marks := rfl

/-- What is opened is held once more. -/
theorem settle_opened (held : Multiset Item) (item : Item) :
    settle held (.opened item) = some (item ::ₘ held) := rfl

/-- Closing an item that lies on top of the open ones leaves the others. -/
theorem settle_closed_cons (held : Multiset Item) (item : Item) :
    settle (item ::ₘ held) (.closed item) = some held := by
  simp only [settle, Multiset.mem_cons, true_or, ↓reduceIte, Multiset.erase_cons_head]

/-- A log can be replayed in two parts. -/
theorem replay_append (held : Multiset Item) (first second : List (Mark Item)) :
    replay held (first ++ second) = (replay held first).bind fun next => replay next second := by
  induction first generalizing held with
  | nil => rfl
  | cons mark marks ih =>
      rw [List.cons_append, replay_cons, replay_cons, Option.bind_assoc]
      exact congrArg _ (funext fun next => ih next)

/-- Appending one entry to a log that replays settles that entry. -/
theorem replay_concat {held middle : Multiset Item} {marks : List (Mark Item)}
    (replayed : replay held marks = some middle) (mark : Mark Item) :
    replay held (marks ++ [mark]) = settle middle mark := by
  rw [replay_append, replayed, Option.bind_some, replay_cons]
  cases settle middle mark <;> rfl

/-- A log that replays moves items between the open multiset, the openings and
the closings, and loses none. -/
theorem held_add_opened_of_replay {held final : Multiset Item} {marks : List (Mark Item)}
    (replayed : replay held marks = some final) :
    held + openedItems marks = closedItems marks + final := by
  induction marks generalizing held with
  | nil =>
      obtain rfl := Option.some.inj replayed
      simp [openedItems, closedItems]
  | cons mark marks ih =>
      rw [replay_cons] at replayed
      obtain ⟨next, settled, rest⟩ := Option.bind_eq_some_iff.mp replayed
      have tail := ih rest
      cases mark with
      | opened item =>
          obtain rfl := Option.some.inj settled
          change held + (item ::ₘ openedItems marks) = closedItems marks + final
          rw [← tail, Multiset.add_cons, Multiset.cons_add]
      | closed item =>
          simp only [settle, Option.ite_none_right_eq_some, Option.some.injEq] at settled
          obtain ⟨member, rfl⟩ := settled
          change held + openedItems marks = (item ::ₘ closedItems marks) + final
          rw [Multiset.cons_add, ← tail, ← Multiset.cons_add, Multiset.cons_erase member]

/-- From nothing open, a log that replays leaves open exactly the difference of
its openings and its closings. -/
theorem opened_sub_closed_of_replay {final : Multiset Item} {marks : List (Mark Item)}
    (replayed : replay 0 marks = some final) :
    openedItems marks - closedItems marks = final := by
  have balance := held_add_opened_of_replay replayed
  rw [zero_add] at balance
  rw [balance, add_tsub_cancel_left]

end M3Midi.Foundation
