import Mathlib.Analysis.InnerProductSpace.PiL2
import DocSearch.Proofs.Numeric.Exact
import DocSearch.Ranking.Vector

/-!
# Cosines

The vector model adds up three inner products over the terms of a query and divides them: the
weights of the document by those of the query, and either by itself. Read over the real numbers
these are the inner product of two vectors of a Euclidean space and the squares of their norms
(`inner_eq`, `inner_diagonal`), so the quotient is the cosine of the angle between them.

The Cauchy–Schwarz inequality bounds it by one, so without rounding there is nothing to cut off. The
case of equality tells which vectors have the cosine one (`cosine_eq_one_iff`).
-/

namespace DocSearch.Vector

open scoped RealInnerProductSpace

/-- The vector with one coordinate for each pair. -/
noncomputable def coordinates (f : ℝ × ℝ → ℝ) (pairs : List (ℝ × ℝ)) :
    EuclideanSpace ℝ (Fin pairs.length) :=
  WithLp.toLp _ fun i => f pairs[i]

/-- The cosine of the angle between two vectors of weights, one above the other, as the quotient of
their inner products. -/
noncomputable def cosine (pairs : List (ℝ × ℝ)) : ℝ :=
  inner pairs / (√(inner (pairs.map fun (x, _) => (x, x))) *
    √(inner (pairs.map fun (_, y) => (y, y))))

variable (pairs : List (ℝ × ℝ)) (f g : ℝ × ℝ → ℝ)

/-! ## Inner products -/

lemma inner_eq_sum : inner pairs = (pairs.map fun p => p.1 * p.2).sum := by
  rw [inner, Scalar.zero_real, List.sum_eq_foldl, List.foldl_map]

lemma inner_coordinates :
    ⟪coordinates f pairs, coordinates g pairs⟫ = (pairs.map fun p => g p * f p).sum := by
  rw [PiLp.inner_apply]
  exact Fin.sum_univ_fun_getElem pairs fun p => g p * f p

/-- The loop of the model computes the inner product of the two vectors. -/
theorem inner_eq :
    inner pairs = ⟪coordinates Prod.snd pairs, coordinates Prod.fst pairs⟫ := by
  rw [inner_coordinates, inner_eq_sum]

/-- The inner product of a vector with itself is the square of its norm. -/
theorem inner_diagonal :
    inner (pairs.map fun p => (f p, f p)) = ‖coordinates f pairs‖ ^ 2 := by
  rw [← real_inner_self_eq_norm_sq, inner_coordinates, inner_eq_sum, List.map_map]
  rfl

variable {f g}

lemma coordinates_eq_iff :
    coordinates f pairs = coordinates g pairs ↔ ∀ p ∈ pairs, f p = g p := by
  constructor
  · intro h p hp
    obtain ⟨i, hi, rfl⟩ := List.getElem_of_mem hp
    exact congrFun (congrArg WithLp.ofLp h) ⟨i, hi⟩
  · intro h
    exact PiLp.ext fun i => h pairs[i] (List.getElem_mem _)

lemma coordinates_eq_zero_iff : coordinates f pairs = 0 ↔ ∀ p ∈ pairs, f p = 0 :=
  coordinates_eq_iff (g := fun _ => 0) pairs

/-! ## Cosines -/

lemma cosine_eq : cosine pairs =
    ⟪coordinates Prod.snd pairs, coordinates Prod.fst pairs⟫ /
      (‖coordinates Prod.snd pairs‖ * ‖coordinates Prod.fst pairs‖) := by
  have hleft := inner_diagonal pairs Prod.fst
  have hright := inner_diagonal pairs Prod.snd
  rw [cosine, hleft, hright, Real.sqrt_sq (norm_nonneg _), Real.sqrt_sq (norm_nonneg _), inner_eq,
    mul_comm]

/-- Without rounding a cosine is at most one. -/
theorem cosine_le_one : cosine pairs ≤ 1 := by
  rw [cosine_eq]
  exact (le_abs_self _).trans (abs_real_inner_div_norm_mul_norm_le_one _ _)

/-- Two vectors have the cosine one exactly if one is a positive multiple of the other, which is not
zero. -/
theorem cosine_eq_one_iff :
    cosine pairs = 1 ↔ (∃ p ∈ pairs, p.2 ≠ 0) ∧ ∃ k, 0 < k ∧ ∀ p ∈ pairs, p.1 = k * p.2 := by
  rw [cosine_eq, real_inner_div_norm_mul_norm_eq_one_iff, Ne, coordinates_eq_zero_iff, not_forall₂]
  simp only [exists_prop]
  refine and_congr_right fun _ => exists_congr fun k => and_congr_right fun _ => ?_
  exact coordinates_eq_iff (g := fun p => k * p.2) pairs

/-- The cosine is zero exactly if the inner product is, even if a vector has no length. -/
lemma cosine_eq_zero_iff_inner : cosine pairs = 0 ↔ inner pairs = 0 := by
  rw [cosine_eq, inner_eq, div_eq_zero_iff, mul_eq_zero, norm_eq_zero, norm_eq_zero]
  refine or_iff_left_of_imp ?_
  rintro (hzero | hzero)
  · rw [hzero, inner_zero_left]
  · rw [hzero, inner_zero_right]

section Acute

variable {pairs} (h : ∀ p ∈ pairs, 0 ≤ p.1 * p.2)

include h

lemma cosine_mem_unit : cosine pairs ∈ Set.Icc 0 1 := by
  have hinner : 0 ≤ inner pairs := by
    rw [inner_eq_sum]
    exact List.sum_nonneg (List.forall_mem_map.2 h)
  exact ⟨div_nonneg hinner (by positivity), cosine_le_one pairs⟩

/-- Coordinates that do not point in opposite directions cannot cancel out. -/
lemma cosine_eq_zero_iff : cosine pairs = 0 ↔ ∀ p ∈ pairs, p.1 * p.2 = 0 := by
  rw [cosine_eq_zero_iff_inner, inner_eq_sum, ← List.forall_mem_map (P := fun x => x = 0)]
  exact ⟨fun hsum _ => List.all_zero_of_le_zero_le_of_sum_eq_zero (List.forall_mem_map.2 h) hsum,
    List.sum_eq_zero⟩

end Acute

end DocSearch.Vector
