import Mathlib.Algebra.Order.BigOperators.Group.List
import Mathlib.Data.Set.Finite.Lattice
import Mathlib.Data.Set.Finite.List
import Mathlib.Order.Bounds.Basic
import DocSearch.Proofs.Rating.Call
import DocSearch.Proofs.Rating.Jaccard

/-!
# Predictions in closed form

A prediction is computed by way of the mean of all ratings and of deviations from it. In exact
arithmetic the mean cancels: a baseline is just the rating of the document (`Ratings.baseline_eq`),
so the prediction is the rating of the document itself, zero if there is none, plus twice the mean
of the ratings of the documents considered for it, weighted by similarity
(`Recommender.expected_closed_form`). Only rated documents that share a term with it have a weight.
-/

namespace DocSearch

lemma foldl_add_pair {ι : Type} (f g : ι → ℝ) (l : List ι) : ∀ a b : ℝ,
    l.foldl (fun (s : ℝ × ℝ) i => (s.1 + f i, s.2 + g i)) (a, b) =
      (a + (l.map f).sum, b + (l.map g).sum) := by
  induction l with
  | nil => simp
  | cons i l ih =>
    intro a b
    rw [List.foldl_cons, ih]
    simp only [List.map_cons, List.sum_cons, add_assoc]

/-- What contributes nothing may be counted as well. -/
lemma sum_map_filter {ι : Type} (p : ι → Bool) (f : ι → ℝ) (l : List ι) :
    ((l.filter p).map f).sum = (l.map fun i => if p i = true then f i else 0).sum := by
  induction l with
  | nil => rfl
  | cons i l ih =>
    rw [List.map_cons, List.sum_cons, ← ih]
    by_cases hi : p i = true
    · rw [List.filter_cons_of_pos hi, List.map_cons, List.sum_cons, if_pos hi]
    · rw [List.filter_cons_of_neg hi, if_neg hi, zero_add]

/-- In exact arithmetic the mean cancels out of a baseline. -/
lemma Ratings.baseline_eq (r : Ratings ℝ) (mean : ℝ) (id : DocId) :
    r.baseline mean id = r.getD id 0 := by
  rw [baseline, deviation, Scalar.zero_real, add_sub_cancel]

namespace Recommender

/-! ## Predictions exist -/

section Existence

variable {α : Type} [Scalar α] {r : Recommender α} {mean : α}

lemma meanRating?_eq_none_iff : r.meanRating? = none ↔ r.ratings = ∅ := by
  rw [meanRating?, Ratings.mean?, ← Std.ExtTreeMap.isEmpty_iff]
  split <;> simp_all

lemma exists_meanRating? (hrated : r.ratings ≠ ∅) : ∃ mean, r.meanRating? = some mean :=
  Option.ne_none_iff_exists'.1 (mt meanRating?_eq_none_iff.1 hrated)

lemma expected?_of_some (hmean : r.meanRating? = some mean) (id : DocId) :
    r.expected? id = some (r.predict mean id) := by
  rw [expected?, hmean]
  rfl

end Existence

variable {r : Recommender ℝ} {id : DocId}

/-! ## Similarity -/

lemma similarity_nonneg (r : Recommender ℝ) (a b : DocId) : 0 ≤ r.similarity a b :=
  (similarity_mem_unit r a b).1

/-- Similar are the documents that share a term. -/
lemma similarity_ne_zero_iff {a b : DocId} :
    r.similarity a b ≠ 0 ↔ r.corpus.ShareTerm a b := by
  rw [similarity]
  split
  · next v w hv hw =>
    have hshare : r.corpus.ShareTerm a b ↔ (v.terms ∩ w.terms).Nonempty := by
      simp [Corpus.ShareTerm, hv, hw, Finset.Nonempty]
    rw [overlap_eq, ne_eq, jaccard_eq_zero_iff, hshare, Finset.not_disjoint_iff_nonempty_inter]
  · next hnone =>
    refine iff_of_false (not_not.2 Scalar.zero_real) ?_
    rintro ⟨v, w, t, hv, hw, -⟩
    exact hnone v w hv hw

/-! ## Sums over the documents considered -/

/-- The rated ones among the documents considered, each as often as it is considered. -/
def ratedNeighbors (r : Recommender ℝ) (id : DocId) : List DocId :=
  (r.pool id).filter r.ratings.contains

/-- The rating of a document, zero if it has none. -/
noncomputable def rating (r : Recommender ℝ) (id : DocId) : ℝ := r.ratings.getD id 0

/-- How similar the rated documents are, in sum. -/
noncomputable def similaritySum (r : Recommender ℝ) (id : DocId) : ℝ :=
  ((r.ratedNeighbors id).map fun n => r.similarity id n).sum

/-- The ratings of the rated documents, weighted by similarity, in sum. -/
noncomputable def ratingSum (r : Recommender ℝ) (id : DocId) : ℝ :=
  ((r.ratedNeighbors id).map fun n => r.similarity id n * r.rating n).sum

lemma ratedPool_eq (r : Recommender ℝ) (id : DocId) :
    r.ratedPool id = (r.ratedNeighbors id).map fun n => (n, r.rating n) := by
  rw [ratedPool, ratedNeighbors]
  induction r.pool id with
  | nil => rfl
  | cons n ns ih =>
    rcases hn : r.ratings[n]? with _ | x
    · have hnot : ¬ r.ratings.contains n = true := by
        rw [Std.ExtTreeMap.contains_iff_mem, ← Std.ExtTreeMap.isSome_getElem?_iff_mem, hn]
        exact Bool.false_ne_true
      rw [List.filterMap_cons_none (by rw [hn]; rfl), List.filter_cons_of_neg hnot, ih]
    · have hmem : r.ratings.contains n = true := by
        rw [Std.ExtTreeMap.contains_iff_mem, ← Std.ExtTreeMap.isSome_getElem?_iff_mem, hn]
        rfl
      have hrating : r.rating n = x := by
        rw [rating, Std.ExtTreeMap.getD_eq_getD_getElem?, hn, Option.getD_some]
      rw [List.filterMap_cons_some (by rw [hn]; rfl), List.filter_cons_of_pos hmem, ih,
        List.map_cons, hrating]

/-- A rated document counts with its rating and with its baseline, which is the same again. -/
lemma weighted_eq (mean : ℝ) (id : DocId) :
    r.weighted mean id = (2 * r.ratingSum id, r.similaritySum id) := by
  have hstep : ∀ n, r.similarity id n * (r.rating n + r.ratings.baseline mean n) =
      2 * (r.similarity id n * r.rating n) := by
    intro n
    rw [Ratings.baseline_eq, rating]
    ring
  rw [weighted, ratedPool_eq, List.foldl_map, Scalar.zero_real]
  refine (foldl_add_pair (fun n => r.similarity id n * (r.rating n + r.ratings.baseline mean n))
    (r.similarity id) _ 0 0).trans ?_
  rw [zero_add, zero_add, funext hstep, List.sum_map_mul_left, ratingSum, similaritySum]

/-- The prediction does not depend on the mean. -/
theorem predict_eq (mean : ℝ) (id : DocId) : r.predict mean id =
    if r.similaritySum id = 0 then 0
    else r.rating id + 2 * r.ratingSum id / r.similaritySum id := by
  rw [predict, weighted_eq, Ratings.baseline_eq, ← rating]
  simp only [Scalar.isZero_real, Scalar.zero_real]

lemma expected?_eq (hrated : r.ratings ≠ ∅) (id : DocId) : r.expected? id =
    some (if r.similaritySum id = 0 then 0
      else r.rating id + 2 * r.ratingSum id / r.similaritySum id) := by
  obtain ⟨mean, hmean⟩ := exists_meanRating? hrated
  rw [expected?_of_some hmean, predict_eq]

/-! ## What a prediction depends on -/

/-- The recommender with other ratings. -/
def withRatings (r : Recommender ℝ) (ratings : Ratings ℝ) : Recommender ℝ := { r with ratings }

section Dependence

variable {ratings : Ratings ℝ}
  (hsame : ∀ n, r.corpus.ShareTerm id n → ratings[n]? = r.ratings[n]?)

include hsame

/-- Documents that share no term contribute nothing, whether they are rated or not. -/
lemma sum_ratedNeighbors_congr {f g : DocId → ℝ}
    (hfg : ∀ n, ratings[n]? = r.ratings[n]? → f n = g n)
    (hf : ∀ n, r.similarity id n = 0 → f n = 0) (hg : ∀ n, r.similarity id n = 0 → g n = 0) :
    (((r.withRatings ratings).ratedNeighbors id).map f).sum =
      ((r.ratedNeighbors id).map g).sum := by
  rw [ratedNeighbors, ratedNeighbors, sum_map_filter, sum_map_filter]
  refine congrArg List.sum (List.map_congr_left fun n _ => ?_)
  by_cases hzero : r.similarity id n = 0
  · rw [hf n hzero, hg n hzero, ite_self, ite_self]
  · have hn := hsame n (similarity_ne_zero_iff.1 hzero)
    have hcontains : ratings.contains n = r.ratings.contains n := by
      rw [Std.ExtTreeMap.contains_eq_isSome_getElem?, Std.ExtTreeMap.contains_eq_isSome_getElem?,
        hn]
    show (if ratings.contains n = true then _ else _) = _
    rw [hcontains, hfg n hn]

lemma similaritySum_withRatings : (r.withRatings ratings).similaritySum id = r.similaritySum id :=
  sum_ratedNeighbors_congr hsame (fun _ _ => rfl) (fun _ h => h) fun _ h => h

lemma ratingSum_withRatings : (r.withRatings ratings).ratingSum id = r.ratingSum id := by
  refine sum_ratedNeighbors_congr hsame (fun n hn => ?_) (fun n h => ?_) fun n h => ?_
  · show r.similarity id n * ratings.getD n 0 = _
    rw [rating, Std.ExtTreeMap.getD_eq_getD_getElem?, Std.ExtTreeMap.getD_eq_getD_getElem?, hn]
  · show r.similarity id n * ratings.getD n 0 = 0
    rw [h, zero_mul]
  · rw [h, zero_mul]

end Dependence

/-- Ratings of documents that share no term with a document, and not of it itself, leave its
prediction as it is. -/
lemma expected?_addAll (hrated : r.ratings ≠ ∅) {pairs : List (DocId × ℝ)}
    (hpairs : ∀ p ∈ pairs, p.1 ≠ id ∧ ¬ r.corpus.ShareTerm id p.1) :
    (r.withRatings (r.ratings.addAll pairs)).expected? id = r.expected? id := by
  have hsame : ∀ n, r.corpus.ShareTerm id n → (r.ratings.addAll pairs)[n]? = r.ratings[n]? := by
    intro n hn
    refine Ratings.getElem?_addAll_of_notMem fun p hp heq => ?_
    exact (hpairs p hp).2 (heq ▸ hn)
  have hself : (r.withRatings (r.ratings.addAll pairs)).rating id = r.rating id := by
    show (r.ratings.addAll pairs).getD id 0 = _
    rw [rating, Std.ExtTreeMap.getD_eq_getD_getElem?, Std.ExtTreeMap.getD_eq_getD_getElem?,
      Ratings.getElem?_addAll_of_notMem fun p hp => (hpairs p hp).1]
  rw [expected?_eq hrated, expected?_eq (Ratings.addAll_ne_empty hrated pairs),
    similaritySum_withRatings hsame, ratingSum_withRatings hsame, hself]

/-! ## Predictions between ratings -/

/-- The ratings of the similar ones among the documents considered. -/
def similarRatings (r : Recommender ℝ) (id : DocId) : Set ℝ :=
  {x | ∃ n ∈ r.ratedNeighbors id, 0 < r.similarity id n ∧ x = r.rating n}

lemma finite_similarRatings (r : Recommender ℝ) (id : DocId) : (r.similarRatings id).Finite := by
  refine (List.finite_toSet ((r.ratedNeighbors id).map r.rating)).subset ?_
  rintro x ⟨n, hn, -, rfl⟩
  exact List.mem_map_of_mem hn

lemma similarRatings_nonempty (hpos : 0 < r.similaritySum id) :
    (r.similarRatings id).Nonempty := by
  by_contra hnone
  have hzero : ∀ n ∈ r.ratedNeighbors id, r.similarity id n = 0 := by
    intro n hn
    by_contra hne
    exact hnone ⟨_, n, hn, (similarity_nonneg r id n).lt_of_ne' hne, rfl⟩
  refine hpos.ne' (List.sum_eq_zero fun x hx => ?_)
  obtain ⟨n, hn, rfl⟩ := List.mem_map.1 hx
  exact hzero n hn

/-- Weighted sums are compared by what they say of the ratings of similar documents. -/
lemma weightedSum_mono {f g : ℝ → ℝ} (hfg : ∀ x ∈ r.similarRatings id, f x ≤ g x) :
    ((r.ratedNeighbors id).map fun n => r.similarity id n * f (r.rating n)).sum ≤
      ((r.ratedNeighbors id).map fun n => r.similarity id n * g (r.rating n)).sum := by
  refine List.sum_le_sum fun n hn => ?_
  rcases (similarity_nonneg r id n).eq_or_lt with hzero | hpos
  · rw [← hzero, zero_mul, zero_mul]
  · exact mul_le_mul_of_nonneg_left (hfg _ ⟨n, hn, hpos, rfl⟩) hpos.le

/-- The prediction of an unrated document lies between twice the lowest and twice the highest
rating of the similar ones. -/
lemma exists_expected?_between (hrated : r.ratings ≠ ∅) (hid : id ∉ r.ratings)
    (hpos : 0 < r.similaritySum id) :
    ∃ low high prediction, IsLeast (r.similarRatings id) low ∧
      IsGreatest (r.similarRatings id) high ∧ r.expected? id = some prediction ∧
      prediction ∈ Set.Icc (2 * low) (2 * high) := by
  have hfinite := finite_similarRatings r id
  have hnonempty := similarRatings_nonempty hpos
  obtain ⟨low, hlow, hlow'⟩ := Set.exists_min_image _ (fun x : ℝ => x) hfinite hnonempty
  obtain ⟨high, hhigh, hhigh'⟩ := Set.exists_max_image _ (fun x : ℝ => x) hfinite hnonempty
  have hself : r.rating id = 0 := Std.ExtTreeMap.getD_eq_fallback hid
  refine ⟨low, high, _, ⟨hlow, hlow'⟩, ⟨hhigh, hhigh'⟩, expected?_eq hrated id, ?_⟩
  have hle : r.similaritySum id * low ≤ r.ratingSum id := by
    rw [similaritySum, ← List.sum_map_mul_right]
    exact weightedSum_mono (f := fun _ => low) (g := fun x => x) hlow'
  have hge : r.ratingSum id ≤ r.similaritySum id * high := by
    rw [similaritySum, ← List.sum_map_mul_right]
    exact weightedSum_mono (f := fun x => x) (g := fun _ => high) hhigh'
  rw [if_neg hpos.ne', hself, zero_add, Set.mem_Icc, le_div_iff₀ hpos, div_le_iff₀ hpos]
  constructor <;> linarith

end Recommender

end DocSearch
