import Mathlib.Data.List.Nodup
import Mathlib.Logic.Function.Basic

/-! # Lockstep passes over shared buffers

Lanes copy one buffer of a memory to another, all of them in step: at each offset
every lane reads its source before any lane writes its target. As long as two
buffers are the same one or do not meet, each target ends with what its source held
at the start, whichever buffers the lanes share (`M3Midi.Foundation.pass_target`).
-/

namespace M3Midi.Foundation

variable {Value : Type*}

/-- Two buffers of a length do not meet. -/
def Apart (length first second : ℕ) : Prop :=
  first + length ≤ second ∨ second + length ≤ first

/-- Two of the buffers are the same one, or do not meet. -/
def WholeBuffers (length : ℕ) (bases : List ℕ) : Prop :=
  ∀ first ∈ bases, ∀ second ∈ bases, first = second ∨ Apart length first second

/-- One address belongs to one buffer, at one offset. -/
theorem WholeBuffers.address_inj {length : ℕ} {bases : List ℕ} (whole : WholeBuffers length bases)
    {first second left right : ℕ} (inFirst : first ∈ bases) (inSecond : second ∈ bases)
    (leftWithin : left < length) (rightWithin : right < length)
    (same : first + left = second + right) : first = second ∧ left = right := by
  rcases whole first inFirst second inSecond with rfl | before | after
  · exact ⟨rfl, Nat.add_left_cancel same⟩
  · omega
  · omega

/-- A copy from one buffer to another. -/
structure Lane (Value : Type*) where
  source : ℕ
  target : ℕ
  convert : Value → Value

/-- The lanes' writes at one offset, of what a memory holds there. -/
def storeColumn (held : ℕ → Value) (offset : ℕ) (lanes : List (Lane Value))
    (memory : ℕ → Value) : ℕ → Value :=
  lanes.foldl (fun current lane =>
    Function.update current (lane.target + offset) (lane.convert (held (lane.source + offset))))
    memory

/-- All lanes make one step: they read first, and write then. -/
def passColumn (lanes : List (Lane Value)) (memory : ℕ → Value) (offset : ℕ) : ℕ → Value :=
  storeColumn memory offset lanes memory

/-- The lanes' steps over a number of offsets. -/
def pass (lanes : List (Lane Value)) (memory : ℕ → Value) (length : ℕ) : ℕ → Value :=
  (List.range length).foldl (passColumn lanes) memory

/-- The buffers the lanes read and write. -/
def laneBuffers (lanes : List (Lane Value)) : List ℕ :=
  lanes.map (·.source) ++ lanes.map (·.target)

/-- The source of a lane is one of the buffers. -/
theorem source_mem_laneBuffers {lanes : List (Lane Value)} {lane : Lane Value}
    (member : lane ∈ lanes) : lane.source ∈ laneBuffers lanes :=
  List.mem_append_left _ (List.mem_map_of_mem member)

theorem target_mem_laneBuffers {lanes : List (Lane Value)} {lane : Lane Value}
    (member : lane ∈ lanes) : lane.target ∈ laneBuffers lanes :=
  List.mem_append_right _ (List.mem_map_of_mem member)

/-- A longer pass ends with its last column. -/
theorem pass_succ (lanes : List (Lane Value)) (memory : ℕ → Value) (length : ℕ) :
    pass lanes memory (length + 1) = passColumn lanes (pass lanes memory length) length := by
  simp [pass, List.range_succ]

section Column

variable (held : ℕ → Value) (offset : ℕ)

/-- An address that no lane writes at this offset keeps its value. -/
theorem storeColumn_outside {lanes : List (Lane Value)} (memory : ℕ → Value) {address : ℕ}
    (outside : ∀ lane ∈ lanes, address ≠ lane.target + offset) :
    storeColumn held offset lanes memory address = memory address := by
  induction lanes generalizing memory with
  | nil => rfl
  | cons lane rest ih =>
      obtain ⟨first, others⟩ := List.forall_mem_cons.mp outside
      refine (ih _ others).trans ?_
      exact Function.update_of_ne first _ _

/-- Each lane's target receives the lane's value. -/
theorem storeColumn_target {lanes : List (Lane Value)} (memory : ℕ → Value)
    (distinct : (lanes.map (·.target)).Nodup) {lane : Lane Value} (member : lane ∈ lanes) :
    storeColumn held offset lanes memory (lane.target + offset) =
      lane.convert (held (lane.source + offset)) := by
  induction lanes generalizing memory with
  | nil => exact absurd member List.not_mem_nil
  | cons first rest ih =>
      rw [List.map_cons, List.nodup_cons] at distinct
      rcases List.mem_cons.mp member with rfl | inRest
      · change storeColumn held offset rest _ _ = _
        rw [storeColumn_outside]
        · exact Function.update_self _ _ _
        · intro other inRest same
          exact distinct.1 (Nat.add_right_cancel same ▸ List.mem_map_of_mem inRest)
      · exact ih _ distinct.2 inRest

end Column

section Pass

variable {lanes : List (Lane Value)} {length : ℕ}

/-- An address outside the targets keeps its value. -/
theorem pass_outside (memory : ℕ → Value) {done address : ℕ}
    (outside : ∀ lane ∈ lanes, ∀ offset < done, address ≠ lane.target + offset) :
    pass lanes memory done address = memory address := by
  induction done with
  | zero => rfl
  | succ done ih =>
      rw [pass_succ, passColumn, storeColumn_outside]
      · exact ih fun lane member offset within =>
          outside lane member offset (Nat.lt_succ_of_lt within)
      · exact fun lane member => outside lane member done (Nat.lt_succ_self done)

variable (whole : WholeBuffers length (laneBuffers lanes))
include whole

/-- What a lane has yet to read is still there. -/
theorem pass_source (memory : ℕ → Value) {done offset : ℕ} (unread : done ≤ offset)
    (within : offset < length) {lane : Lane Value} (member : lane ∈ lanes) :
    pass lanes memory done (lane.source + offset) = memory (lane.source + offset) := by
  refine pass_outside memory fun other inLanes earlier before same => ?_
  have reached := (whole.address_inj (source_mem_laneBuffers member)
    (target_mem_laneBuffers inLanes) within (by omega) same).2
  omega

/-- Each target holds what its source held at the start. -/
theorem pass_target (distinct : (lanes.map (·.target)).Nodup) (memory : ℕ → Value) {done : ℕ}
    (within : done ≤ length) {lane : Lane Value} (member : lane ∈ lanes) {offset : ℕ}
    (written : offset < done) :
    pass lanes memory done (lane.target + offset) =
      lane.convert (memory (lane.source + offset)) := by
  induction done with
  | zero => exact absurd written (Nat.not_lt_zero offset)
  | succ done ih =>
      rw [pass_succ, passColumn]
      rcases Nat.lt_succ_iff_lt_or_eq.mp written with earlier | rfl
      · rw [storeColumn_outside, ih (by omega) earlier]
        intro other inLanes same
        have reached := (whole.address_inj (target_mem_laneBuffers member)
          (target_mem_laneBuffers inLanes) (by omega) (by omega) same).2
        omega
      · rw [storeColumn_target _ _ _ distinct member,
          pass_source whole memory (Nat.le_refl offset) (by omega) member]

end Pass

end M3Midi.Foundation
