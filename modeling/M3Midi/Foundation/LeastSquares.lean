import M3Midi.Foundation.GaussJordan
import Mathlib.Algebra.Order.BigOperators.Group.Finset

/-! # Least squares

A weighted sum of columns is fitted to a target. Weights that solve the normal equations
leave the smallest sum of squares (`M3Midi.Foundation.LeastSquares.squaredError_le`).
-/

namespace M3Midi.Foundation.LeastSquares

variable {Number Feature : Type*} [Field Number] {size : ℕ}
  {columns : Fin size → Feature → Number} {target : Feature → Number} {weights : Fin size → Number}

/-- The weighted sum of the columns. -/
def fitted (columns : Fin size → Feature → Number) (weights : Fin size → Number)
    (feature : Feature) : Number :=
  ∑ member, weights member * columns member feature

/-- The fit of a difference of weights is the difference of the fits. -/
theorem fitted_sub (one two : Fin size → Number) (feature : Feature) :
    fitted columns (fun member => one member - two member) feature =
      fitted columns one feature - fitted columns two feature := by
  rw [fitted, fitted, fitted, ← Finset.sum_sub_distrib]
  exact Finset.sum_congr rfl fun member _ => sub_mul ..

variable [Fintype Feature]

/-- The product of two columns, feature by feature. -/
def product (one two : Feature → Number) : Number := ∑ feature, one feature * two feature

/-- What the weighted sum leaves of the target, in squares. -/
def squaredError (columns : Fin size → Feature → Number) (target : Feature → Number)
    (weights : Fin size → Number) : Number :=
  ∑ feature, (target feature - fitted columns weights feature) *
    (target feature - fitted columns weights feature)

/-- The products of the columns with one another, and with the target. -/
def normalSystem (columns : Fin size → Feature → Number) (target : Feature → Number) :
    LinearSystem Number size where
  matrix left right := product (columns left) (columns right)
  right left := product (columns left) target

/-- The product with a fit is the weighted sum of the products with the columns. -/
theorem product_fitted (column : Feature → Number) :
    product column (fitted columns weights) =
      ∑ member, product column (columns member) * weights member := by
  calc product column (fitted columns weights)
      = ∑ feature, ∑ member, column feature * (weights member * columns member feature) :=
        Finset.sum_congr rfl fun feature _ => Finset.mul_sum ..
    _ = ∑ member, ∑ feature, column feature * (weights member * columns member feature) :=
        Finset.sum_comm
    _ = ∑ member, product column (columns member) * weights member := by
        refine Finset.sum_congr rfl fun member _ => ?_
        rw [product, Finset.sum_mul]
        exact Finset.sum_congr rfl fun feature _ => by ring

/-- What solves the normal system leaves nothing along the columns. -/
theorem product_residual (solves : (normalSystem columns target).Solves weights)
    (member : Fin size) :
    product (columns member) (fun feature => target feature - fitted columns weights feature) =
      0 := by
  have equation : ∑ other, product (columns member) (columns other) * weights other =
      product (columns member) target := solves member
  calc product (columns member) (fun feature => target feature - fitted columns weights feature)
      = product (columns member) target - product (columns member) (fitted columns weights) := by
        rw [product, product, product, ← Finset.sum_sub_distrib]
        exact Finset.sum_congr rfl fun feature _ => mul_sub ..
    _ = 0 := by rw [product_fitted, equation, sub_self]

/-- Other weights leave the squares of their difference as well. -/
theorem squaredError_eq (solves : (normalSystem columns target).Solves weights)
    (other : Fin size → Number) :
    squaredError columns target other =
      squaredError columns target weights +
        ∑ feature, fitted columns (fun member => weights member - other member) feature *
          fitted columns (fun member => weights member - other member) feature := by
  have crossed : ∑ feature, (target feature - fitted columns weights feature) *
      fitted columns (fun member => weights member - other member) feature = 0 := by
    change product (fun feature => target feature - fitted columns weights feature) _ = 0
    rw [product_fitted]
    refine Finset.sum_eq_zero fun member _ => ?_
    have along : product (fun feature => target feature - fitted columns weights feature)
        (columns member) = 0 := by
      rw [← product_residual solves member]
      exact Finset.sum_congr rfl fun feature _ => mul_comm ..
    rw [along, zero_mul]
  have expanded : squaredError columns target other =
      squaredError columns target weights +
        2 * ∑ feature, (target feature - fitted columns weights feature) *
          fitted columns (fun member => weights member - other member) feature +
        ∑ feature, fitted columns (fun member => weights member - other member) feature *
          fitted columns (fun member => weights member - other member) feature := by
    rw [squaredError, squaredError, Finset.mul_sum, ← Finset.sum_add_distrib,
      ← Finset.sum_add_distrib]
    refine Finset.sum_congr rfl fun feature _ => ?_
    rw [fitted_sub]
    ring
  rw [expanded, crossed, mul_zero, add_zero]

/-- No other weights leave less. -/
theorem squaredError_le [LinearOrder Number] [IsStrictOrderedRing Number]
    (solves : (normalSystem columns target).Solves weights) (other : Fin size → Number) :
    squaredError columns target weights ≤ squaredError columns target other := by
  rw [squaredError_eq solves other]
  exact le_add_of_nonneg_right (Finset.sum_nonneg fun feature _ => mul_self_nonneg _)

end M3Midi.Foundation.LeastSquares
