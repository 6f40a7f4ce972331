import Mathlib.Algebra.Order.BigOperators.Group.List
import DocSearch.Proofs.Numeric.Exact
import DocSearch.Ranking.ExtendedBoolean

/-!
# Means of weights

The extended boolean model combines weights between zero and one to a weight of the whole, for a
disjunction by their distance from all zeros, for a conjunction by their closeness to all ones.
Read over the real numbers, both are means in a strict sense (`ProperMean`): they stay between zero
and one, reach the ends only if all weights do, grow with each of the weights, and leave a single
weight as it is.

This is proved of the distance from zero (`properMean_remoteness`). Closeness to one is its
counterpart, as a conjunction is the counterpart of a disjunction: turn the weights round, take the
mean, and turn it round again (`ProperMean.dual`). What the model computes has a case of its own for
a single weight. As a proper mean does not need it, the formulas with and without this case agree
(`allWeight_eq`, `anyWeight_eq`).
-/

namespace DocSearch.ExtendedBoolean

/-! ## Weights -/

/-- All weights are between zero and one. -/
def Weights (ws : List ℝ) : Prop := ∀ w ∈ ws, w ∈ Set.Icc 0 1

section Weights

variable {v w : ℝ} {vs ws : List ℝ}

lemma weights_cons : Weights (w :: ws) ↔ w ∈ Set.Icc 0 1 ∧ Weights ws := List.forall_mem_cons

lemma map_ne_nil {ι : Type} {l : List ι} {f : ι → ℝ} (h : l ≠ []) : l.map f ≠ [] := by
  rwa [Ne, List.map_eq_nil_iff]

lemma weights_map {ι : Type} {l : List ι} {f : ι → ℝ} (h : ∀ i ∈ l, f i ∈ Set.Icc 0 1) :
    Weights (l.map f) := List.forall_mem_map.2 h

/-- The weights turned round, so that zero and one change places. -/
def complements (ws : List ℝ) : List ℝ := ws.map fun w => 1 - w

lemma Weights.complements (h : Weights ws) : Weights (complements ws) :=
  weights_map fun w hw => Set.Icc.mem_iff_one_sub_mem.1 (h w hw)

lemma complements_ne_nil (h : ws ≠ []) : complements ws ≠ [] := map_ne_nil h

lemma forall_mem_complements {p : ℝ → Prop} :
    (∀ w ∈ complements ws, p w) ↔ ∀ w ∈ ws, p (1 - w) := List.forall_mem_map

lemma forall₂_complements (h : List.Forall₂ (· ≤ ·) vs ws) :
    List.Forall₂ (· ≤ ·) (complements ws) (complements vs) := by
  rw [complements, complements, List.forall₂_map_left_iff, List.forall₂_map_right_iff]
  exact (h.imp fun v w hvw => sub_le_sub_left hvw 1).flip

lemma ne_nil_of_forall₂ (h : List.Forall₂ (· ≤ ·) vs ws) (hne : vs ≠ []) : ws ≠ [] := by
  rintro rfl
  exact hne (List.forall₂_nil_right_iff.1 h)

lemma length_pos_of_ne_nil (h : ws ≠ []) : (0 : ℝ) < ws.length := by
  exact_mod_cast List.length_pos_of_ne_nil h

end Weights

/-- The function is a mean of weights in a strict sense: it stays between zero and one, reaches
these ends only if all weights do, and grows with each of the weights. -/
structure ProperMean (f : List ℝ → ℝ) : Prop where
  /-- The mean of weights is a weight. -/
  mem_unit : ∀ {ws}, ws ≠ [] → Weights ws → f ws ∈ Set.Icc 0 1
  /-- It is zero only if all weights are. -/
  eq_zero_iff : ∀ {ws}, ws ≠ [] → Weights ws → (f ws = 0 ↔ ∀ w ∈ ws, w = 0)
  /-- It is one only if all weights are. -/
  eq_one_iff : ∀ {ws}, ws ≠ [] → Weights ws → (f ws = 1 ↔ ∀ w ∈ ws, w = 1)
  /-- It grows with the weights. -/
  mono : ∀ {vs ws}, vs ≠ [] → Weights vs → Weights ws → List.Forall₂ (· ≤ ·) vs ws → f vs ≤ f ws
  /-- The mean of a single weight is this weight. -/
  singleton : ∀ {w}, w ∈ Set.Icc 0 1 → f [w] = w

/-- The counterpart of a mean, with the roles of zero and one exchanged, is one as well. -/
theorem ProperMean.dual {f : List ℝ → ℝ} (h : ProperMean f) :
    ProperMean fun ws => 1 - f (complements ws) where
  mem_unit := fun hne hws =>
    Set.Icc.mem_iff_one_sub_mem.1 (h.mem_unit (complements_ne_nil hne) hws.complements)
  eq_zero_iff := by
    intro ws hne hws
    rw [sub_eq_zero, eq_comm, h.eq_one_iff (complements_ne_nil hne) hws.complements,
      forall_mem_complements]
    exact forall₂_congr fun w _ => sub_eq_self
  eq_one_iff := by
    intro ws hne hws
    rw [sub_eq_self, h.eq_zero_iff (complements_ne_nil hne) hws.complements,
      forall_mem_complements]
    exact forall₂_congr fun w _ => sub_eq_zero.trans eq_comm
  mono := by
    intro vs ws hne hvs hws hle
    have hne' := ne_nil_of_forall₂ hle hne
    exact sub_le_sub_left (h.mono (complements_ne_nil hne') hws.complements hvs.complements
      (forall₂_complements hle)) 1
  singleton := by
    intro w hw
    show 1 - f [1 - w] = w
    rw [h.singleton (Set.Icc.mem_iff_one_sub_mem.1 hw), sub_sub_cancel]

/-- What is equal to a mean on weights is a mean. -/
lemma ProperMean.congr {f g : List ℝ → ℝ} (h : ProperMean f)
    (hfg : ∀ {ws}, ws ≠ [] → Weights ws → g ws = f ws) : ProperMean g where
  mem_unit := fun hne hws => hfg hne hws ▸ h.mem_unit hne hws
  eq_zero_iff := fun hne hws => hfg hne hws ▸ h.eq_zero_iff hne hws
  eq_one_iff := fun hne hws => hfg hne hws ▸ h.eq_one_iff hne hws
  mono := by
    intro vs ws hne hvs hws hle
    have hne' := ne_nil_of_forall₂ hle hne
    rw [hfg hne hvs, hfg hne' hws]
    exact h.mono hne hvs hws hle
  singleton := by
    intro w hw
    have hweights : Weights [w] := List.forall_mem_singleton.2 hw
    rw [hfg (List.cons_ne_nil _ _) hweights, h.singleton hw]

/-! ## Means of weighted lists -/

namespace ProperMean

variable {m : List ℝ → ℝ} (h : ProperMean m) {ι : Type} {l : List ι} {f g : ι → ℝ} (hl : l ≠ [])
  (hf : ∀ i ∈ l, f i ∈ Set.Icc 0 1)

include h hl hf

lemma map_mem_unit : m (l.map f) ∈ Set.Icc 0 1 := h.mem_unit (map_ne_nil hl) (weights_map hf)

lemma map_eq_zero_iff : m (l.map f) = 0 ↔ ∀ i ∈ l, f i = 0 := by
  rw [h.eq_zero_iff (map_ne_nil hl) (weights_map hf), List.forall_mem_map]

lemma map_eq_one_iff : m (l.map f) = 1 ↔ ∀ i ∈ l, f i = 1 := by
  rw [h.eq_one_iff (map_ne_nil hl) (weights_map hf), List.forall_mem_map]

/-- A mean is positive if one of the weights is. -/
lemma map_pos_iff : 0 < m (l.map f) ↔ ∃ i ∈ l, 0 < f i := by
  rw [(h.map_mem_unit hl hf).1.lt_iff_ne', Ne, h.map_eq_zero_iff hl hf, not_forall₂]
  simp only [exists_prop]
  exact exists_congr fun i => and_congr_right fun hi => (hf i hi).1.lt_iff_ne'.symm

lemma map_mono (hg : ∀ i ∈ l, g i ∈ Set.Icc 0 1) (hle : ∀ i ∈ l, f i ≤ g i) :
    m (l.map f) ≤ m (l.map g) := by
  refine h.mono (map_ne_nil hl) (weights_map hf) (weights_map hg) ?_
  rwa [List.forall₂_map_left_iff, List.forall₂_map_right_iff, List.forall₂_same]

end ProperMean

/-! ## The quadratic mean -/

/-- The sum of the squares of a list. -/
def squareSum (ws : List ℝ) : ℝ := (ws.map fun w => w ^ 2).sum

lemma remoteness_eq (ws : List ℝ) : remoteness ws = √(squareSum ws / ws.length) := by
  have hsquares : ws.map Scalar.square = ws.map fun w => w ^ 2 :=
    List.map_congr_left fun w _ => Scalar.square_real w
  rw [remoteness, hsquares, Scalar.sum_real, Scalar.sqrt_real, Scalar.ofNat_real, squareSum]

lemma closeness_eq (ws : List ℝ) : closeness ws = 1 - remoteness (complements ws) := by
  have hsquares : (complements ws).map Scalar.square =
      ws.map fun w => Scalar.square (Scalar.one - w) := by
    rw [complements, List.map_map, Scalar.one_real]
    rfl
  rw [closeness, remoteness, hsquares, complements, List.length_map, Scalar.one_real]

section SquareSum

variable {vs ws : List ℝ}

lemma squareSum_cons (w : ℝ) (ws : List ℝ) : squareSum (w :: ws) = w ^ 2 + squareSum ws := by
  rw [squareSum, List.map_cons, List.sum_cons, squareSum]

lemma squareSum_nonneg (ws : List ℝ) : 0 ≤ squareSum ws :=
  List.sum_nonneg (List.forall_mem_map.2 fun w _ => sq_nonneg w)

lemma squareSum_eq_zero_iff : squareSum ws = 0 ↔ ∀ w ∈ ws, w = 0 := by
  induction ws with
  | nil => simp [squareSum]
  | cons w ws ih =>
    rw [squareSum_cons, add_eq_zero_iff_of_nonneg (sq_nonneg w) (squareSum_nonneg ws), ih,
      sq_eq_zero_iff, List.forall_mem_cons]

/-- The squares of weights add up to at most their number, and to just that only if all weights are
one. -/
lemma squareSum_le_length (hws : Weights ws) :
    squareSum ws ≤ ws.length ∧ (squareSum ws = ws.length ↔ ∀ w ∈ ws, w = 1) := by
  induction ws with
  | nil => simp [squareSum]
  | cons w ws ih =>
    obtain ⟨⟨hzero, hone⟩, hws⟩ := weights_cons.1 hws
    obtain ⟨hle, hiff⟩ := ih hws
    have hsquare : w ^ 2 ≤ 1 := pow_le_one₀ hzero hone
    -- the first square and the rest stay below their shares, so neither can make up for the other
    rw [squareSum_cons, List.length_cons, Nat.cast_succ, List.forall_mem_cons, ← hiff,
      ← pow_eq_one_iff_of_nonneg hzero two_ne_zero]
    refine ⟨by linarith, fun heq => ⟨by linarith, by linarith⟩, ?_⟩
    rintro ⟨hw, hrest⟩
    linarith

lemma squareSum_mono (hvs : Weights vs) (hle : List.Forall₂ (· ≤ ·) vs ws) :
    squareSum vs ≤ squareSum ws := by
  induction hle with
  | nil => exact le_refl _
  | @cons v w vs ws hvw _ ih =>
    obtain ⟨⟨hzero, -⟩, hvs⟩ := weights_cons.1 hvs
    have hsquare : v ^ 2 ≤ w ^ 2 := pow_le_pow_left₀ hzero hvw 2
    rw [squareSum_cons, squareSum_cons]
    exact add_le_add hsquare (ih hvs)

end SquareSum

/-- The distance from all zeros is a proper mean. -/
theorem properMean_remoteness : ProperMean remoteness where
  mem_unit := by
    intro ws hne hws
    have hlength := length_pos_of_ne_nil hne
    have hle := (squareSum_le_length hws).1
    rw [remoteness_eq]
    exact ⟨Real.sqrt_nonneg _, Real.sqrt_le_one.2 ((div_le_one hlength).2 hle)⟩
  eq_zero_iff := by
    intro ws hne hws
    have hlength := length_pos_of_ne_nil hne
    have hnonneg : 0 ≤ squareSum ws / ws.length := div_nonneg (squareSum_nonneg ws) hlength.le
    rw [remoteness_eq, Real.sqrt_eq_zero hnonneg, div_eq_zero_iff, or_iff_left hlength.ne',
      squareSum_eq_zero_iff]
  eq_one_iff := by
    intro ws hne hws
    have hlength := length_pos_of_ne_nil hne
    rw [remoteness_eq, Real.sqrt_eq_one, div_eq_one_iff_eq hlength.ne', (squareSum_le_length hws).2]
  mono := by
    intro vs ws _ hvs _ hle
    rw [remoteness_eq, remoteness_eq, hle.length_eq]
    have hsum := squareSum_mono hvs hle
    gcongr
  singleton := by
    intro w hw
    rw [remoteness_eq, List.length_singleton, Nat.cast_one, div_one, squareSum_cons]
    show √(w ^ 2 + 0) = w
    rw [add_zero, Real.sqrt_sq hw.1]

/-! ## Conjunctions and disjunctions -/

theorem properMean_closeness : ProperMean closeness :=
  properMean_remoteness.dual.congr fun _ _ => closeness_eq _

/-- The formula for conjunctions holds for a single weight as well. -/
theorem allWeight_eq {ws : List ℝ} (hne : ws ≠ []) (hws : Weights ws) :
    allWeight ws = closeness ws := by
  match ws, hne with
  | [w], _ => exact (properMean_closeness.singleton (weights_cons.1 hws).1).symm
  | v :: w :: ws, _ => rfl

/-- The formula for disjunctions holds for a single weight as well. -/
theorem anyWeight_eq {ws : List ℝ} (hne : ws ≠ []) (hws : Weights ws) :
    anyWeight ws = remoteness ws := by
  match ws, hne with
  | [w], _ => exact (properMean_remoteness.singleton (weights_cons.1 hws).1).symm
  | v :: w :: ws, _ => rfl

theorem properMean_allWeight : ProperMean allWeight := properMean_closeness.congr allWeight_eq

theorem properMean_anyWeight : ProperMean anyWeight := properMean_remoteness.congr anyWeight_eq

end DocSearch.ExtendedBoolean
