import M3Midi.Foundation.ProposalTable
import Mathlib.Algebra.BigOperators.Field
import Mathlib.Algebra.Order.AbsoluteValue.Basic
import Mathlib.Data.List.FinRange
import Mathlib.Tactic.Linarith
import Mathlib.Tactic.Ring

/-! # Gauss-Jordan elimination

Every column is cleared by the row that is largest there, unless all are within a floor of
zero. Then the right side is what solves the system that one started with
(`M3Midi.Foundation.LinearSystem.solves_of_solve`). Entries left of the column are zero in
the row that clears it, so they need no work.
-/

namespace M3Midi.Foundation

open ProposalTable

/-- As many equations as unknowns. -/
@[ext] structure LinearSystem (Number : Type*) (size : ℕ) where
  matrix : Fin size → Fin size → Number
  right : Fin size → Number

namespace LinearSystem

variable {Number : Type*} [Field Number] {size : ℕ}

/-- Some numbers satisfy every equation. -/
def Solves (system : LinearSystem Number size) (values : Fin size → Number) : Prop :=
  ∀ row, ∑ column, system.matrix row column * values column = system.right row

/-- Two rows change places. -/
def swap (system : LinearSystem Number size) (one two : Fin size) : LinearSystem Number size where
  matrix row := system.matrix (Equiv.swap one two row)
  right row := system.right (Equiv.swap one two row)

/-- The row of a column is divided by its entry there, from there on. -/
def normalise (system : LinearSystem Number size) (column : Fin size) :
    LinearSystem Number size where
  matrix row item :=
    if row = column ∧ column ≤ item then
      system.matrix column item / system.matrix column column
    else system.matrix row item
  right row :=
    if row = column then system.right column / system.matrix column column
    else system.right row

/-- Multiples of the row of a column are subtracted from the others, from there on. -/
def clear (system : LinearSystem Number size) (column : Fin size) : LinearSystem Number size where
  matrix row item :=
    if row ≠ column ∧ column ≤ item then
      system.matrix row item - system.matrix row column * system.matrix column item
    else system.matrix row item
  right row :=
    if row ≠ column then system.right row - system.matrix row column * system.right column
    else system.right row

/-- The first columns are those of the unit matrix. -/
def Reduced (system : LinearSystem Number size) (columns : ℕ) : Prop :=
  ∀ row column : Fin size, column.val < columns →
    system.matrix row column = if row = column then 1 else 0

variable {system : LinearSystem Number size} {values : Fin size → Number} {column : Fin size}

/-- Two rows that are swapped have the same solutions. -/
theorem solves_swap {one two : Fin size} :
    (system.swap one two).Solves values ↔ system.Solves values := by
  constructor
  · intro solves row
    have equation := solves (Equiv.swap one two row)
    change ∑ item, system.matrix (Equiv.swap one two (Equiv.swap one two row)) item * values item =
      system.right (Equiv.swap one two (Equiv.swap one two row)) at equation
    rwa [Equiv.swap_apply_self] at equation
  · exact fun solves row => solves (Equiv.swap one two row)

/-- The rows from a column on are zero in the columns before it. -/
theorem Reduced.zero (reduced : system.Reduced column.val) {row item : Fin size}
    (below : column ≤ row) (before : item < column) : system.matrix row item = 0 := by
  rw [reduced row item before, if_neg]
  rintro rfl
  exact absurd before (not_lt.mpr below)

/-- A row from below may be swapped into the next column's place. -/
theorem Reduced.swap (reduced : system.Reduced column.val) {other : Fin size}
    (below : column ≤ other) : (system.swap column other).Reduced column.val := by
  intro row item before
  change system.matrix (Equiv.swap column other row) item = _
  rcases eq_or_ne row column with rfl | notColumn
  · rw [Equiv.swap_apply_left, reduced.zero below before, if_neg (Fin.ne_of_gt before)]
  · rcases eq_or_ne row other with rfl | notOther
    · rw [Equiv.swap_apply_right, reduced.zero le_rfl before, if_neg]
      exact Fin.ne_of_gt (lt_of_lt_of_le before below)
    · rw [Equiv.swap_apply_of_ne_of_ne notColumn notOther]
      exact reduced row item before

/-- With zeros before the column, the whole row is divided. -/
theorem normalise_matrix (reduced : system.Reduced column.val) (item : Fin size) :
    (system.normalise column).matrix column item =
      system.matrix column item / system.matrix column column := by
  change (if column = column ∧ column ≤ item then _ else _) = _
  rcases lt_or_ge item column with before | after
  · rw [if_neg fun both => absurd both.2 (not_le.mpr before), reduced.zero le_rfl before, zero_div]
  · rw [if_pos ⟨rfl, after⟩]

/-- A row that is normalised is the only one that changes. -/
theorem normalise_other {row : Fin size} (other : row ≠ column) (item : Fin size) :
    (system.normalise column).matrix row item = system.matrix row item :=
  if_neg fun both => other both.1

/-- A row that is divided by its pivot has the same solutions. -/
theorem solves_normalise (reduced : system.Reduced column.val)
    (nonzero : system.matrix column column ≠ 0) :
    (system.normalise column).Solves values ↔ system.Solves values := by
  refine forall_congr' fun row => ?_
  rcases eq_or_ne row column with rfl | other
  · have entries : ∀ item, (system.normalise row).matrix row item * values item =
        system.matrix row item * values item / system.matrix row row := fun item => by
      rw [normalise_matrix reduced, div_mul_eq_mul_div]
    have right : (system.normalise row).right row = system.right row / system.matrix row row :=
      if_pos rfl
    rw [Finset.sum_congr rfl fun item _ => entries item, ← Finset.sum_div, right,
      div_left_inj' nonzero]
  · have right : (system.normalise column).right row = system.right row := if_neg other
    rw [Finset.sum_congr rfl fun item _ => by rw [normalise_other other item], right]

/-- The columns before it stay reduced. -/
theorem Reduced.normalise (reduced : system.Reduced column.val) :
    (system.normalise column).Reduced column.val := by
  intro row item before
  change (if row = column ∧ column ≤ item then _ else _) = _
  rw [if_neg fun both => absurd both.2 (not_le.mpr before)]
  exact reduced row item before

/-- With zeros before the column, whole rows are subtracted. -/
theorem clear_matrix (reduced : system.Reduced column.val) {row : Fin size} (other : row ≠ column)
    (item : Fin size) :
    (system.clear column).matrix row item =
      system.matrix row item - system.matrix row column * system.matrix column item := by
  change (if row ≠ column ∧ column ≤ item then _ else _) = _
  rcases lt_or_ge item column with before | after
  · rw [if_neg fun both => absurd both.2 (not_le.mpr before), reduced.zero le_rfl before, mul_zero,
      sub_zero]
  · rw [if_pos ⟨other, after⟩]

/-- The row of the pivot stays as it is while its column is cleared. -/
theorem clear_same (item : Fin size) :
    (system.clear column).matrix column item = system.matrix column item :=
  if_neg fun both => both.1 rfl

/-- A column that is cleared leaves the same solutions. -/
theorem solves_clear (reduced : system.Reduced column.val) :
    (system.clear column).Solves values ↔ system.Solves values := by
  have same : (system.clear column).right column = system.right column :=
    if_neg fun differs => differs rfl
  have row_iff {row : Fin size} (other : row ≠ column)
      (equation : ∑ item, system.matrix column item * values item = system.right column) :
      ∑ item, (system.clear column).matrix row item * values item =
          (system.clear column).right row ↔
        ∑ item, system.matrix row item * values item = system.right row := by
    have right : (system.clear column).right row =
        system.right row - system.matrix row column * system.right column := if_pos other
    have entries : ∀ item, (system.clear column).matrix row item * values item =
        system.matrix row item * values item -
          system.matrix row column * (system.matrix column item * values item) := fun item => by
      rw [clear_matrix reduced other, sub_mul, mul_assoc]
    rw [Finset.sum_congr rfl fun item _ => entries item, Finset.sum_sub_distrib, ← Finset.mul_sum,
      equation, right, sub_left_inj]
  constructor
  · intro solves
    have equation := solves column
    rw [same, Finset.sum_congr rfl fun item _ => by rw [clear_same item]] at equation
    intro row
    rcases eq_or_ne row column with rfl | other
    · exact equation
    · exact (row_iff other equation).mp (solves row)
  · intro solves row
    rcases eq_or_ne row column with rfl | other
    · rw [same, Finset.sum_congr rfl fun item _ => by rw [clear_same item]]
      exact solves row
    · exact (row_iff other (solves column)).mpr (solves row)

/-- The column becomes one of the unit matrix. -/
theorem Reduced.clear (reduced : system.Reduced column.val)
    (unit : system.matrix column column = 1) : (system.clear column).Reduced (column.val + 1) := by
  intro row item before
  rcases eq_or_ne row column with rfl | other
  · rw [clear_same]
    rcases Nat.lt_succ_iff_lt_or_eq.mp before with earlier | same
    · exact reduced row item earlier
    · rw [Fin.ext same, if_pos rfl]
      exact unit
  · rw [clear_matrix reduced other]
    rcases Nat.lt_succ_iff_lt_or_eq.mp before with earlier | same
    · rw [reduced.zero le_rfl earlier, mul_zero, sub_zero]
      exact reduced row item earlier
    · rw [Fin.ext same, unit, mul_one, sub_self, if_neg other]

/-- A unit matrix is solved by its right side. -/
theorem solves_right (reduced : system.Reduced size) : system.Solves system.right := by
  intro row
  have entries : ∀ column, system.matrix row column * system.right column =
      if row = column then system.right column else 0 := fun column => by
    rw [reduced row column column.isLt, ite_mul, one_mul, zero_mul]
  rw [Finset.sum_congr rfl fun column _ => entries column, Finset.sum_ite_eq,
    if_pos (Finset.mem_univ row)]

section Elimination

variable [LinearOrder Number]

/-- The row from the column on that is largest there. -/
def pivot (system : LinearSystem Number size) (column : Fin size) : Fin size :=
  strongest (fun row best => |system.matrix best column| < |system.matrix row column|) column
    ((List.finRange size).filter (column < ·))

/-- The turn of a column, unless all its entries are within the floor. -/
def eliminate (floor : Number) (system : LinearSystem Number size) (column : Fin size) :
    Option (LinearSystem Number size) :=
  let largest := system.pivot column
  if |system.matrix largest column| ≤ floor then none
  else some (((system.swap column largest).normalise column).clear column)

/-- The right side when all columns have been cleared. -/
def solve (floor : Number) (system : LinearSystem Number size) : Option (Fin size → Number) :=
  ((List.finRange size).foldlM (eliminate floor) system).map right

/-- The pivot is found at or below its column. -/
theorem le_pivot (system : LinearSystem Number size) (column : Fin size) :
    column ≤ system.pivot column := by
  rcases strongest_mem column ((List.finRange size).filter (column < ·)) with same | member
  · exact same.ge
  · exact (of_decide_eq_true (List.mem_filter.mp member).2).le

variable [IsStrictOrderedRing Number]

section Identity

variable (unit : ∀ row item, system.matrix row item = if row = item then 1 else 0)

include unit

/-- In the unit matrix every row is the largest of its own column. -/
theorem pivot_of_unit (column : Fin size) : system.pivot column = column := by
  have source := @strongest_split _
    (fun row best => decide (|system.matrix best column| < |system.matrix row column|)) column
    ((List.finRange size).filter (column < ·))
  refine source.resolve_right ?_
  rintro ⟨before, after, split, larger⟩
  have member : system.pivot column ∈ (List.finRange size).filter (column < ·) := by
    rw [split]
    exact List.mem_append_right _ List.mem_cons_self
  have beyond := of_decide_eq_true (List.mem_filter.mp member).2
  have larger : _ < |system.matrix (system.pivot column) column| := of_decide_eq_true larger
  have nothing : system.matrix (system.pivot column) column = 0 :=
    (unit _ column).trans (if_neg beyond.ne')
  rw [nothing, abs_zero] at larger
  exact absurd larger (not_lt.mpr (abs_nonneg _))

/-- The unit matrix is left as it is by the turn of a column. -/
theorem eliminate_of_unit {floor : Number} (small : floor < 1) (column : Fin size) :
    system.eliminate floor column = some system := by
  have diagonal : system.matrix column column = 1 := (unit column column).trans (if_pos rfl)
  have swapped : system.swap column column = system := by
    unfold swap
    rw [Equiv.swap_self]
    rfl
  have normalised : system.normalise column = system := by
    ext row item
    · unfold normalise
      dsimp only
      split_ifs with here
      · rw [diagonal, div_one, here.1]
      · rfl
    · unfold normalise
      dsimp only
      split_ifs with here
      · rw [diagonal, div_one, here]
      · rfl
  have cleared : system.clear column = system := by
    ext row item
    · unfold clear
      dsimp only
      split_ifs with other
      · rw [unit row column, if_neg other.1, zero_mul, sub_zero]
      · rfl
    · unfold clear
      dsimp only
      split_ifs with other
      · rw [unit row column, if_neg other, zero_mul, sub_zero]
      · rfl
  rw [eliminate, pivot_of_unit unit, diagonal, abs_one, if_neg (not_le.mpr small), swapped,
    normalised, cleared]

/-- A system with the unit matrix is solved by its right side. -/
theorem solve_of_unit {floor : Number} (small : floor < 1) :
    system.solve floor = some system.right := by
  have turns (columns : List (Fin size)) :
      columns.foldlM (eliminate floor) system = some system := by
    induction columns with
    | nil => rfl
    | cons column columns ih =>
        rw [List.foldlM_cons, eliminate_of_unit unit small]
        exact ih
  rw [solve, turns, Option.map_some]

end Identity

/-- The turn of a column leaves the solutions. -/
theorem eliminate_spec {floor : Number} (floored : 0 ≤ floor)
    {next : LinearSystem Number size} (reduced : system.Reduced column.val)
    (turns : system.eliminate floor column = some next) :
    next.Reduced (column.val + 1) ∧ (next.Solves values ↔ system.Solves values) := by
  rw [eliminate] at turns
  split_ifs at turns with small
  obtain rfl := Option.some.inj turns
  have swapped := reduced.swap (le_pivot system column)
  have nonzero : (system.swap column (system.pivot column)).matrix column column ≠ 0 := by
    change system.matrix (Equiv.swap column (system.pivot column) column) column ≠ 0
    rw [Equiv.swap_apply_left]
    intro zero
    rw [zero, abs_zero] at small
    exact small floored
  have unit : ((system.swap column (system.pivot column)).normalise column).matrix column column =
      1 := by
    rw [normalise_matrix swapped, div_self nonzero]
  refine ⟨swapped.normalise.clear unit, ?_⟩
  rw [solves_clear swapped.normalise, solves_normalise swapped nonzero, solves_swap]

/-- The turns of the remaining columns, one after the other. -/
theorem eliminations_spec {floor : Number} (floored : 0 ≤ floor)
    {columns : List (Fin size)} {done : ℕ} {final : LinearSystem Number size}
    (remaining : columns.map Fin.val = List.range' done columns.length)
    (reduced : system.Reduced done) (turns : columns.foldlM (eliminate floor) system = some final) :
    final.Reduced (done + columns.length) ∧ (final.Solves values ↔ system.Solves values) := by
  induction columns generalizing system done with
  | nil =>
      obtain rfl := Option.some.inj turns
      exact ⟨reduced, Iff.rfl⟩
  | cons column columns ih =>
      rw [List.map_cons, List.length_cons, List.range'_succ, List.cons.injEq] at remaining
      obtain ⟨rfl, remaining⟩ := remaining
      rw [List.foldlM_cons] at turns
      obtain ⟨next, turned, turns⟩ := Option.bind_eq_some_iff.mp turns
      obtain ⟨nextReduced, solutions⟩ : next.Reduced (column.val + 1) ∧
          (next.Solves values ↔ system.Solves values) := eliminate_spec floored reduced turned
      obtain ⟨finalReduced, rest⟩ := ih remaining nextReduced turns
      refine ⟨?_, rest.trans solutions⟩
      rw [List.length_cons, Nat.add_comm columns.length, ← Nat.add_assoc]
      exact finalReduced

/-- What elimination finds solves the system. -/
theorem solves_of_solve {floor : Number} (floored : 0 ≤ floor)
    (found : system.solve floor = some values) : system.Solves values := by
  rw [solve] at found
  obtain ⟨final, turns, rfl⟩ := Option.map_eq_some_iff.mp found
  have columns : (List.finRange size).map Fin.val = List.range' 0 (List.finRange size).length := by
    rw [List.length_finRange]
    refine List.ext_getElem ?_ fun index _ _ => ?_
    · rw [List.length_map, List.length_finRange, List.length_range']
    · rw [List.getElem_map, List.getElem_finRange, List.getElem_range', Nat.zero_add, Nat.one_mul]
      rfl
  have start : system.Reduced 0 := fun _ _ before => absurd before (Nat.not_lt_zero _)
  obtain ⟨reduced, solutions⟩ : final.Reduced (0 + (List.finRange size).length) ∧
      (final.Solves final.right ↔ system.Solves final.right) :=
    eliminations_spec floored columns start turns
  rw [List.length_finRange, Nat.zero_add] at reduced
  exact solutions.mp (solves_right reduced)

end Elimination

end LinearSystem

end M3Midi.Foundation
