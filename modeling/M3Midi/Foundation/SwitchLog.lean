import M3Midi.Foundation.OpenClose
import Mathlib.Data.Finset.Basic
import Mathlib.Data.Finset.Image
import Mathlib.Data.List.Nodup

/-! # Logs that switch items on and off

A log switches on items that are off and off items that are on. Of every single
item such a log tells switches that alternate
(`M3Midi.Foundation.Switches.alternate`). A batch that mentions no item twice is
such a log in whatever order it is read, and what it leaves on depends on its
members only.
-/

namespace M3Midi.Foundation

variable {Item : Type*} [DecidableEq Item]

/-- The item that a mark is about. -/
def Mark.item : Mark Item → Item
  | .opened item => item
  | .closed item => item

/-- Whether a mark switches its item on. -/
def Mark.opens : Mark Item → Bool
  | .opened _ => true
  | .closed _ => false

/-- The items that are on after one mark. -/
def switch (held : Finset Item) : Mark Item → Finset Item
  | .opened item => insert item held
  | .closed item => held.erase item

/-- The items that are on after a log. -/
def switchAll (held : Finset Item) (marks : List (Mark Item)) : Finset Item :=
  marks.foldl switch held

/-- A log switches on only what is off, and off only what is on. -/
def Switches (held : Finset Item) : List (Mark Item) → Prop
  | [] => True
  | mark :: marks => (mark.item ∈ held ↔ mark.opens = false) ∧ Switches (switch held mark) marks

/-- A list of answers changes at every step, from a first answer on. -/
def Alternates : Bool → List Bool → Prop
  | _, [] => True
  | next, answer :: answers => answer = next ∧ Alternates (!next) answers

/-- What a log says of one item: on and off, in order. -/
def switchesOf (item : Item) (marks : List (Mark Item)) : List Bool :=
  (marks.filter fun mark => mark.item = item).map Mark.opens

omit [DecidableEq Item] in
@[simp] theorem item_opened (item : Item) : (Mark.opened item).item = item := rfl

omit [DecidableEq Item] in
@[simp] theorem item_closed (item : Item) : (Mark.closed item).item = item := rfl

omit [DecidableEq Item] in
@[simp] theorem opens_opened (item : Item) : (Mark.opened item).opens = true := rfl

omit [DecidableEq Item] in
@[simp] theorem opens_closed (item : Item) : (Mark.closed item).opens = false := rfl

@[simp] theorem switchAll_nil (held : Finset Item) : switchAll held [] = held := rfl

/-- Two logs switch one after the other. -/
theorem switchAll_append (held : Finset Item) (first second : List (Mark Item)) :
    switchAll held (first ++ second) = switchAll (switchAll held first) second :=
  List.foldl_append

/-- A log in two parts only switches what it may if the second part starts from what the first one
has left. -/
theorem switches_append {held : Finset Item} {first second : List (Mark Item)} :
    Switches held (first ++ second) ↔
      Switches held first ∧ Switches (switchAll held first) second := by
  induction first generalizing held with
  | nil => exact ⟨fun rest => ⟨trivial, rest⟩, And.right⟩
  | cons mark marks ih =>
      rw [List.cons_append, Switches, Switches, ih, and_assoc]
      rfl

/-- A mark changes its own item, to on or to off. -/
theorem mem_switch {held : Finset Item} {mark : Mark Item} {item : Item} :
    item ∈ switch held mark ↔ (mark.item = item ∧ mark.opens = true) ∨
      (mark.item ≠ item ∧ item ∈ held) := by
  cases mark with
  | opened other =>
      rw [switch, Finset.mem_insert]
      by_cases same : other = item
      · simp [same]
      · simp [same, Ne.symm same]
  | closed other =>
      rw [switch, Finset.mem_erase]
      simp [eq_comm]

/-- Of every item, a log tells switches that alternate. -/
theorem Switches.alternate {held : Finset Item} {marks : List (Mark Item)}
    (switches : Switches held marks) (item : Item) :
    Alternates (decide (item ∉ held)) (switchesOf item marks) := by
  induction marks generalizing held with
  | nil => exact trivial
  | cons mark marks ih =>
      obtain ⟨admissible, rest⟩ := switches
      have tail := ih rest
      unfold switchesOf
      by_cases same : mark.item = item
      · rw [List.filter_cons_of_pos (by simpa using same), List.map_cons]
        subst same
        have opens : mark.opens = decide (mark.item ∉ held) := by
          cases opened : mark.opens with
          | true =>
              rw [opened] at admissible
              simp [mt admissible.mp]
          | false => simp [admissible.mpr opened]
        have next : decide (mark.item ∉ switch held mark) = !decide (mark.item ∉ held) := by
          rw [← opens]
          simp [mem_switch]
        exact ⟨opens, next ▸ tail⟩
      · rw [List.filter_cons_of_neg (by simpa using same)]
        have unchanged : decide (item ∉ switch held mark) = decide (item ∉ held) := by
          simp [mem_switch, same]
        exact unchanged ▸ tail

/-- What is on after a batch that mentions no item twice. -/
theorem mem_switchAll_of_nodup {held : Finset Item} {marks : List (Mark Item)}
    (once : (marks.map Mark.item).Nodup) {item : Item} :
    item ∈ switchAll held marks ↔
      .opened item ∈ marks ∨ (item ∈ held ∧ ∀ mark ∈ marks, mark.item ≠ item) := by
  induction marks generalizing held with
  | nil => simp
  | cons mark marks ih =>
      obtain ⟨fresh, rest⟩ := List.nodup_cons.mp once
      change item ∈ switchAll (switch held mark) marks ↔ _
      rw [ih rest, mem_switch]
      have apart : ∀ other ∈ marks, other.item ≠ mark.item := by
        intro other member same
        exact fresh (List.mem_map.mpr ⟨other, member, same⟩)
      constructor
      · rintro (later | ⟨⟨rfl, opened⟩ | ⟨other, before⟩, unmentioned⟩)
        · exact .inl (List.mem_cons_of_mem mark later)
        · cases mark with
          | opened item => exact .inl List.mem_cons_self
          | closed item => cases opened
        · refine .inr ⟨before, fun mark member => ?_⟩
          rcases List.mem_cons.mp member with rfl | later
          · exact other
          · exact unmentioned mark later
      · rintro (member | ⟨before, unmentioned⟩)
        · rcases List.mem_cons.mp member with same | later
          · subst same
            exact .inr ⟨.inl ⟨rfl, rfl⟩, apart⟩
          · exact .inl later
        · exact .inr ⟨.inr ⟨unmentioned mark List.mem_cons_self, before⟩,
            fun mark member => unmentioned mark (List.mem_cons_of_mem _ member)⟩

/-- A log that names every item once switches off only what is on at its start. -/
theorem Switches.mem_of_closed {held : Finset Item} {marks : List (Mark Item)}
    (once : (marks.map Mark.item).Nodup) (switches : Switches held marks) {item : Item}
    (closed : .closed item ∈ marks) : item ∈ held := by
  induction marks generalizing held with
  | nil => exact absurd closed List.not_mem_nil
  | cons mark marks ih =>
      obtain ⟨fresh, once⟩ := List.nodup_cons.mp once
      rcases List.mem_cons.mp closed with rfl | later
      · exact switches.1.mpr rfl
      · have apart : mark.item ≠ item := fun same =>
          fresh (same ▸ List.mem_map_of_mem later)
        rcases mem_switch.mp (ih once switches.2 later) with ⟨same, -⟩ | ⟨-, before⟩
        · exact absurd same apart
        · exact before

/-- A batch that mentions no item twice switches on what is off and off what is on. -/
theorem switches_of_nodup {held : Finset Item} {marks : List (Mark Item)}
    (once : (marks.map Mark.item).Nodup)
    (admissible : ∀ mark ∈ marks, (mark.item ∈ held ↔ mark.opens = false)) :
    Switches held marks := by
  induction marks generalizing held with
  | nil => exact trivial
  | cons mark marks ih =>
      obtain ⟨fresh, rest⟩ := List.nodup_cons.mp once
      refine ⟨admissible mark List.mem_cons_self, ih rest fun other member => ?_⟩
      have apart : mark.item ≠ other.item := fun same =>
        fresh (List.mem_map.mpr ⟨other, member, same.symm⟩)
      rw [← admissible other (List.mem_cons_of_mem _ member), mem_switch]
      simp [apart]

/-- Where the switches of every item alternate, the log is one of switches. -/
theorem switches_of_alternate {held : Finset Item} {marks : List (Mark Item)}
    (alternate : ∀ item, Alternates (decide (item ∉ held)) (switchesOf item marks)) :
    Switches held marks := by
  induction marks generalizing held with
  | nil => exact trivial
  | cons mark marks ih =>
      have own := alternate mark.item
      unfold switchesOf at own
      rw [List.filter_cons_of_pos (by simp), List.map_cons] at own
      obtain ⟨opens, rest⟩ := own
      have admissible : mark.item ∈ held ↔ mark.opens = false := by
        rw [opens]
        simp
      refine ⟨admissible, ih fun item => ?_⟩
      by_cases same : mark.item = item
      · subst same
        have next : decide (mark.item ∉ switch held mark) = !decide (mark.item ∉ held) := by
          rw [← opens]
          simp [mem_switch]
        exact next ▸ rest
      · have other := alternate item
        unfold switchesOf at other
        rw [List.filter_cons_of_neg (by simpa using same)] at other
        have unchanged : decide (item ∉ switch held mark) = decide (item ∉ held) := by
          simp [mem_switch, same]
        exact unchanged ▸ other

/-- What was on before a mark is known from what is on after it. -/
theorem switch_inj {first second : Finset Item} {mark : Mark Item}
    (admissibleFirst : mark.item ∈ first ↔ mark.opens = false)
    (admissibleSecond : mark.item ∈ second ↔ mark.opens = false)
    (same : switch first mark = switch second mark) : first = second := by
  ext item
  have members := Finset.ext_iff.mp same item
  rw [mem_switch, mem_switch] at members
  by_cases here : mark.item = item
  · subst here
    exact admissibleFirst.trans admissibleSecond.symm
  · simpa [here] using members

/-- What was on before a log is known from what is on after it. -/
theorem switchAll_inj {first second : Finset Item} {marks : List (Mark Item)}
    (switchesFirst : Switches first marks) (switchesSecond : Switches second marks)
    (same : switchAll first marks = switchAll second marks) : first = second := by
  induction marks generalizing first second with
  | nil => exact same
  | cons mark marks ih =>
      exact switch_inj switchesFirst.1 switchesSecond.1
        (ih switchesFirst.2 switchesSecond.2 same)

/-- A batch that mentions no item twice and changes nothing is empty. -/
theorem eq_nil_of_switchAll_eq {held : Finset Item} {marks : List (Mark Item)}
    (once : (marks.map Mark.item).Nodup) (switches : Switches held marks)
    (same : switchAll held marks = held) : marks = [] := by
  cases marks with
  | nil => rfl
  | cons mark marks =>
      exfalso
      have fresh := (List.nodup_cons.mp once).1
      have member := @mem_switchAll_of_nodup _ _ held _ once mark.item
      rw [same, switches.1] at member
      have alone : Mark.opened mark.item ∉ marks := fun later =>
        fresh (List.mem_map.mpr ⟨_, later, rfl⟩)
      cases mark with
      | opened item => simp at member
      | closed item =>
          rw [List.mem_cons] at member
          simp at member
          exact alone member

section Map

variable {Other : Type*} [DecidableEq Other]

/-- A mark under a renaming of the items. -/
def Mark.map (rename : Item → Other) : Mark Item → Mark Other
  | .opened item => .opened (rename item)
  | .closed item => .closed (rename item)

omit [DecidableEq Item] [DecidableEq Other] in
@[simp] theorem item_map (rename : Item → Other) (mark : Mark Item) :
    (mark.map rename).item = rename mark.item := by
  cases mark <;> rfl

omit [DecidableEq Item] [DecidableEq Other] in
@[simp] theorem opens_map (rename : Item → Other) (mark : Mark Item) :
    (mark.map rename).opens = mark.opens := by
  cases mark <;> rfl

variable {rename : Item → Other} (injective : Function.Injective rename)

include injective in
/-- A mark switches the renamed items as the original switches its own, if the renaming keeps items
apart. -/
theorem switch_map (held : Finset Item) (mark : Mark Item) :
    switch (held.image rename) (mark.map rename) = (switch held mark).image rename := by
  cases mark with
  | opened item => exact (Finset.image_insert rename item held).symm
  | closed item => exact (Finset.image_erase injective held item).symm

include injective in
theorem switchAll_map (held : Finset Item) (marks : List (Mark Item)) :
    switchAll (held.image rename) (marks.map (Mark.map rename)) =
      (switchAll held marks).image rename := by
  induction marks generalizing held with
  | nil => rfl
  | cons mark marks ih =>
      change switchAll (switch (held.image rename) (mark.map rename)) _ = _
      rw [switch_map injective]
      exact ih (switch held mark)

include injective in
/-- A renamed log switches what it may exactly if the original does. -/
theorem switches_map {held : Finset Item} {marks : List (Mark Item)} :
    Switches (held.image rename) (marks.map (Mark.map rename)) ↔ Switches held marks := by
  induction marks generalizing held with
  | nil => rfl
  | cons mark marks ih =>
      rw [List.map_cons, Switches, Switches, switch_map injective, ih, item_map, opens_map,
        injective.mem_finset_image]

end Map

end M3Midi.Foundation
