import Mathlib.Analysis.SpecialFunctions.Log.Base
import Mathlib.Analysis.Real.Sqrt
import DocSearch.Numeric.Scalar

/-!
# Exact arithmetic

The formulas for scores and ratings are written over any kind of number. Read over the real numbers
they say what is to be computed, without rounding and without anything that is not a number.

The operations of `Scalar` are those of the real numbers. The lemmas below put the few that have
names of their own into the usual notation, so that a formula turns into an ordinary term by
simplification.
-/

namespace DocSearch

noncomputable instance : Scalar ℝ where
  ofNat n := n
  negZero := 0
  sqrt := Real.sqrt
  log2 := Real.logb 2
  max := max
  min := min
  isZero x := decide (x = 0)
  lt x y := decide (x < y)
  totalCompare := compare

namespace Scalar

@[simp] lemma ofNat_real (n : ℕ) : (ofNat n : ℝ) = n := rfl

@[simp] lemma zero_real : (zero : ℝ) = 0 := Nat.cast_zero

@[simp] lemma one_real : (one : ℝ) = 1 := Nat.cast_one

@[simp] lemma square_real (x : ℝ) : square x = x ^ 2 := (sq x).symm

@[simp] lemma sqrt_real (x : ℝ) : sqrt x = √x := rfl

@[simp] lemma log2_real (x : ℝ) : log2 x = Real.logb 2 x := rfl

@[simp] lemma max_real (x y : ℝ) : Scalar.max x y = x ⊔ y := rfl

@[simp] lemma min_real (x y : ℝ) : Scalar.min x y = x ⊓ y := rfl

@[simp] lemma isZero_real {x : ℝ} : isZero x = true ↔ x = 0 := decide_eq_true_iff

@[simp] lemma lt_real {x y : ℝ} : lt x y = true ↔ x < y := decide_eq_true_iff

/-- Over the real numbers a sum does not depend on the order in which it is added up. -/
@[simp] lemma sum_real (xs : List ℝ) : sum xs = xs.sum := List.sum_eq_foldl.symm

end Scalar

/-- A product of numbers that are not negative is positive if both are. -/
lemma mul_pos_iff_of_nonneg {x y : ℝ} (hx : 0 ≤ x) (hy : 0 ≤ y) : 0 < x * y ↔ 0 < x ∧ 0 < y := by
  rw [(mul_nonneg hx hy).lt_iff_ne', hx.lt_iff_ne', hy.lt_iff_ne', mul_ne_zero_iff]

end DocSearch
