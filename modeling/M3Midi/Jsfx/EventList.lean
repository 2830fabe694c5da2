import M3Midi.Foundation.StableInsertion
import Mathlib.Algebra.Order.Floor.Ring
import Mathlib.Data.Rat.Floor
import Mathlib.Data.Prod.Lex

/-! # The event list of the JSFX program

A section of the program queues note-ons and note-offs in a list of sixteen
cells and sends them later. A full list refuses a note-on; a note-off takes the
place of the note-on that was queued last.
-/

namespace M3Midi.Jsfx

open Foundation

/-- The functions of the EEL2 runtime that are not exact on the rationals. -/
structure EelMath where
  exp : ℚ → ℚ
  sqrt : ℚ → ℚ
  pow : ℚ → ℚ → ℚ

/-- A number that may fail `m3_isfinite`. -/
abbrev Reading := Option ℚ

/-- `M3_MAX_VOICES`. -/
def maxVoices : ℕ := 8

/-- `M3_MAX_EVENTS`. -/
def maxEvents : ℕ := 16

/-- The number of notes, and of voice cells. -/
def noteCount : ℕ := 128

/-- `m3_clamp`. -/
def clamp {Number : Type} [Min Number] [Max Number] (value low high : Number) : Number :=
  min high (max low value)

/-- `floor`. -/
def floor (value : ℚ) : ℤ := value.floor

/-- `M3_EVENT_TYPE_OFF` and `M3_EVENT_TYPE_ON`. -/
inductive EventType
  | off
  | on
  deriving DecidableEq, Repr

/-- One cell of the event list. Its sequence number tells which of two events for a note was queued
last. -/
structure LifecycleEvent where
  type : EventType
  note : ℕ
  velocity : ℤ
  sample : ℤ
  sequence : ℕ
  deriving DecidableEq, Repr

/-- The event list, the overflow flag in its header, and the counter that
numbers what it accepts (`m3_lifecycle_sequence`). -/
structure EventList where
  events : List LifecycleEvent := []
  overflow : Bool := false
  sequence : ℕ := 0
  deriving DecidableEq, Repr

namespace EventList

/-- `m3_lifecycle_reset_events`. -/
def reset (list : EventList) : EventList :=
  { list with events := [], overflow := false }

/-- The index and the number of the note-on that was queued last, among the
cells from an index on. -/
def latestOnFrom (index : ℕ) (latest : Option (ℕ × ℕ)) :
    List LifecycleEvent → Option (ℕ × ℕ)
  | [] => latest
  | event :: events =>
      latestOnFrom (index + 1)
        (if event.type = .on ∧ ∀ found ∈ latest, found.2 < event.sequence then
          some (index, event.sequence) else latest) events

/-- The index of the note-on that was queued last. -/
def latestOnIndex (list : EventList) : Option ℕ :=
  (latestOnFrom 0 none list.events).map Prod.fst

/-- The cell that an accepted event fills. -/
def cell (list : EventList) (type : EventType) (note : ℕ) (velocity blockOffset : ℤ) :
    LifecycleEvent where
  type
  note := clamp note 0 127
  velocity := if type = .on then clamp velocity 1 127 else 0
  sample := max 0 blockOffset
  sequence := list.sequence + 1

/-- `m3_lifecycle_queue_event`: whether the event was accepted, and the list. -/
def queueEvent (list : EventList) (type : EventType) (note : ℕ) (velocity blockOffset : ℤ) :
    Bool × EventList :=
  if list.events.length < maxEvents then
    (true, { list with
      events := list.events ++ [list.cell type note velocity blockOffset]
      sequence := list.sequence + 1 })
  else
    let overflowed := { list with overflow := true }
    match if type = .off then list.latestOnIndex else none with
    | some index =>
        (true, { overflowed with
          events := list.events.set index (list.cell type note velocity blockOffset)
          sequence := list.sequence + 1 })
    | none => (false, overflowed)

/-- Whether `m3_lifecycle_sort_events` moves an event before an earlier one. -/
def shouldMove (key previous : LifecycleEvent) : Bool :=
  decide (key.sample < previous.sample) ||
    (decide (previous.sample = key.sample) && decide (key.type = .off ∧ previous.type = .on)) ||
    (decide (previous.sample = key.sample) && decide (previous.type = key.type) &&
      decide (key.note < previous.note))

/-- `m3_lifecycle_sort_events`. -/
def sortEvents (list : EventList) : EventList :=
  { list with
    events := list.events.foldl (fun sorted event => insertFromBack shouldMove event sorted) [] }

variable {list : EventList} {type : EventType} {note : ℕ} {velocity blockOffset : ℤ}

/-- With room in the list an event is appended. -/
theorem queueEvent_room (room : list.events.length < maxEvents) :
    list.queueEvent type note velocity blockOffset =
      (true, { list with
        events := list.events ++ [list.cell type note velocity blockOffset]
        sequence := list.sequence + 1 }) :=
  if_pos room

@[simp] theorem reset_events (list : EventList) : list.reset.events = [] := rfl

@[simp] theorem reset_overflow (list : EventList) : list.reset.overflow = false := rfl

@[simp] theorem reset_sequence (list : EventList) : list.reset.sequence = list.sequence := rfl

/-- The order of the sorted list: by offset, then note-offs first, then by note. -/
def rank (event : LifecycleEvent) : ℤ ×ₗ ℕ ×ₗ ℕ :=
  toLex (event.sample, toLex ((if event.type = .on then 1 else 0), event.note))

/-- The sort moves an event before another one if it ranks before it. -/
theorem shouldMove_iff {key previous : LifecycleEvent} :
    shouldMove key previous = true ↔ rank key < rank previous := by
  unfold shouldMove rank
  simp only [Bool.or_eq_true, Bool.and_eq_true, decide_eq_true_eq, Prod.Lex.toLex_lt_toLex]
  cases key.type <;> cases previous.type <;> simp <;> omega

/-- It stops at an event that does not rank behind. -/
theorem shouldMove_eq_false {key previous : LifecycleEvent} :
    shouldMove key previous = false ↔ rank previous ≤ rank key := by
  rw [Bool.eq_false_iff, Ne, shouldMove_iff, not_lt]

/-- The sort loses no event and adds none. -/
theorem sortEvents_perm (list : EventList) : list.sortEvents.events.Perm list.events :=
  insertAll_perm list.events

/-- The sorted events are in the order of their ranks. -/
theorem sortEvents_pairwise (list : EventList) :
    list.sortEvents.events.Pairwise fun earlier later => rank earlier ≤ rank later := by
  have sorted : list.sortEvents.events.Pairwise
      fun earlier later => shouldMove later earlier = false := by
    refine insertAll_pairwise ?_ ?_ list.events
    · intro first second third lower upper
      rw [shouldMove_eq_false] at lower upper ⊢
      exact lower.trans upper
    · intro first second moves
      rw [shouldMove_iff] at moves
      exact shouldMove_eq_false.mpr moves.le
  exact sorted.imp fun ordered => shouldMove_eq_false.mp ordered

/-- Among events of one offset the note-offs come first. -/
theorem sortEvents_offs_first {offset : ℤ}
    (placed : ∀ event ∈ list.events, event.sample = offset) :
    list.sortEvents.events.Pairwise fun earlier later =>
      earlier.type = .on → later.type = .on := by
  refine (List.Pairwise.and_mem.mp list.sortEvents_pairwise).imp ?_
  rintro earlier later ⟨earlierMember, laterMember, ranked⟩ on
  have earlierPlaced := placed earlier ((list.sortEvents_perm).mem_iff.mp earlierMember)
  have laterPlaced := placed later ((list.sortEvents_perm).mem_iff.mp laterMember)
  cases type : later.type with
  | on => rfl
  | off =>
      exfalso
      unfold rank at ranked
      rw [Prod.Lex.toLex_le_toLex, Prod.Lex.toLex_le_toLex, earlierPlaced, laterPlaced, on,
        type] at ranked
      simp at ranked

end EventList

end M3Midi.Jsfx
