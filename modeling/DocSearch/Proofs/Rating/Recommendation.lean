import DocSearch.Proofs.Index.Construction
import DocSearch.Proofs.Numeric.Binary64
import DocSearch.Proofs.Ranking.Basic
import DocSearch.Proofs.Rating.Prediction

/-!
# Recommendations

Recommended are the unrated documents of the corpus with the lowest predictions, in ascending order
of predictions and, where these are equal, of ids (`Recommender.recommend_lowest`). Predictions are
arranged by the linear order of all numbers, so that this holds of every corpus and of all ratings,
whatever they predict.
-/

namespace DocSearch

/-- What an ascending list begins with comes before the rest of it. -/
lemma Ascends.lt_of_mem_take {α : Type} {cmp : α → α → Ordering} {l : List α} (h : Ascends cmp l)
    {k : Nat} {a b : α} (ha : a ∈ l.take k) (hb : b ∈ l) (hnot : b ∉ l.take k) :
    cmp a b = .lt := by
  rw [Ascends, ← List.take_append_drop k l, List.pairwise_append] at h
  rw [← List.take_append_drop k l, List.mem_append] at hb
  exact h.2.2 a ha b (hb.resolve_left hnot)

namespace Recommender

section Order

variable {α : Type} [Scalar α] [Std.TransCmp (Scalar.totalCompare : α → α → Ordering)]

instance : Std.TransCmp (comparePredictions : DocId × α → DocId × α → Ordering) :=
  letI : Ord α := ⟨Scalar.totalCompare⟩
  have : Std.TransOrd α := inferInstanceAs (Std.TransCmp Scalar.totalCompare)
  inferInstanceAs (Std.TransCmp
    (compareLex (compareOn (Prod.snd : DocId × α → α)) (compareOn Prod.fst)))

end Order

section Rated

variable {α : Type} [Scalar α] {r : Recommender α}

omit [Scalar α] in
/-- The documents of the corpus without a rating, in the order of the corpus. -/
def unrated (r : Recommender α) : List DocId :=
  r.corpus.documents.ids.filter fun id => !r.ratings.contains id

omit [Scalar α] in
lemma mem_unrated {id : DocId} :
    id ∈ r.unrated ↔ id ∈ r.corpus.documents.ids ∧ id ∉ r.ratings := by
  rw [unrated, List.mem_filter, Bool.not_eq_true', ← Bool.not_eq_true,
    Std.ExtTreeMap.contains_iff_mem]

lemma recommend_of_empty (hempty : r.ratings = ∅) (k : Nat) : r.recommend k = [] := by
  rw [recommend, meanRating?_eq_none_iff.2 hempty]

variable {mean : α}

lemma recommend_of_some (hmean : r.meanRating? = some mean) (k : Nat) :
    r.recommend k = ((r.predictions mean).take k).map Prod.fst := by
  rw [recommend, hmean]

lemma perm_predictions :
    (r.predictions mean).Perm (r.unrated.map fun id => (id, r.predict mean id)) :=
  List.mergeSort_perm _ _

lemma mem_predictions {id : DocId} {x : α} :
    (id, x) ∈ r.predictions mean ↔ id ∈ r.unrated ∧ x = r.predict mean id := by
  rw [perm_predictions.mem_iff, Ranking.mem_scored]

lemma map_fst_predictions_perm : ((r.predictions mean).map Prod.fst).Perm r.unrated := by
  refine (perm_predictions.map Prod.fst).trans ?_
  rw [Ranking.map_fst_scored]

omit [Scalar α] in
lemma nodup_unrated {ds : List Document} {vs : List TermVector}
    (h : DocumentStore.ofLists ds vs = .ok r.corpus.documents) : r.unrated.Nodup :=
  (DocumentStore.nodup_ids h).sublist List.filter_sublist

end Rated

/-! ## The lowest predictions -/

section Lowest

variable {r : Recommender Binary64} {mean : Binary64} {k : Nat}

/-- The first document is recommended before the second one: its prediction is lower, or it is the
same and the id is smaller. -/
def Precedes (r : Recommender Binary64) (a b : DocId) : Prop :=
  ∃ x y, r.expected? a = some x ∧ r.expected? b = some y ∧
    (Scalar.totalCompare x y = .lt ∨ x = y ∧ a < b)

/-- The documents are those `k` unrated ones of the corpus that are to be recommended first, or all
if there are no more than `k`. -/
structure IsLowest (r : Recommender Binary64) (k : Nat) (ids : List DocId) : Prop where
  length_eq : ids.length = min k r.unrated.length
  nodup : ids.Nodup
  unrated : ∀ id ∈ ids, id ∈ r.corpus.documents.ids ∧ id ∉ r.ratings
  ordered : ids.Pairwise r.Precedes
  lowest : ∀ id ∈ ids, ∀ other, other ∈ r.corpus.documents.ids → other ∉ r.ratings →
    other ∉ ids → r.Precedes id other

lemma comparePredictions_eq_lt_iff {a b : DocId × Binary64} : comparePredictions a b = .lt ↔
    Scalar.totalCompare a.2 b.2 = .lt ∨ a.2 = b.2 ∧ a.1 < b.1 := by
  rw [comparePredictions, Ordering.then_eq_lt, Binary64.totalCompare_eq_iff, Std.compare_eq_lt]

/-- The order of predictions is that in which documents are recommended. -/
lemma precedes_of_comparePredictions (hmean : r.meanRating? = some mean) {a b : DocId × Binary64}
    (ha : a ∈ r.predictions mean) (hb : b ∈ r.predictions mean)
    (hab : comparePredictions a b = .lt) : r.Precedes a.1 b.1 := by
  obtain ⟨-, hx⟩ := mem_predictions.1 ha
  obtain ⟨-, hy⟩ := mem_predictions.1 hb
  refine ⟨a.2, b.2, ?_, ?_, comparePredictions_eq_lt_iff.1 hab⟩
  · rw [expected?_of_some hmean, hx]
  · rw [expected?_of_some hmean, hy]

variable {ds : List Document} {vs : List TermVector}
  (h : DocumentStore.ofLists ds vs = .ok r.corpus.documents)

include h

lemma ascends_predictions (mean : Binary64) : Ascends comparePredictions (r.predictions mean) := by
  refine ascends_mergeSort (List.pairwise_map.2 ((nodup_unrated h).imp ?_))
  intro a b hne heq
  obtain ⟨-, hid⟩ := Ordering.then_eq_eq.1 heq
  exact hne (Std.LawfulEqOrd.eq_of_compare hid)

/-- The first predictions in order are those of the documents to be recommended first. -/
lemma isLowest_take (hmean : r.meanRating? = some mean) (k : Nat) :
    r.IsLowest k (((r.predictions mean).take k).map Prod.fst) := by
  have hascends := ascends_predictions h mean
  have hsub : ((r.predictions mean).take k).Sublist (r.predictions mean) := List.take_sublist _ _
  have hnodup : ((r.predictions mean).map Prod.fst).Nodup :=
    map_fst_predictions_perm.nodup_iff.2 (nodup_unrated h)
  refine ⟨?length_eq, hnodup.sublist (hsub.map Prod.fst), ?unrated, ?ordered, ?lowest⟩
  case length_eq =>
    rw [List.length_map, List.length_take, perm_predictions.length_eq, List.length_map]
  case unrated =>
    intro id hid
    exact mem_unrated.1 (map_fst_predictions_perm.mem_iff.1 ((hsub.map Prod.fst).subset hid))
  case ordered =>
    refine List.pairwise_map.2 ((hascends.sublist hsub).imp_of_mem fun ha hb hab => ?_)
    exact precedes_of_comparePredictions hmean (hsub.subset ha) (hsub.subset hb) hab
  case lowest =>
    intro id hid other hother hunrated hout
    obtain ⟨a, ha, rfl⟩ := List.mem_map.1 hid
    -- the document that is left out has a prediction, which stands behind the first ones
    obtain ⟨b, hb, rfl⟩ := List.mem_map.1
      (map_fst_predictions_perm.mem_iff.2 (mem_unrated.2 ⟨hother, hunrated⟩))
    have hnot : b ∉ (r.predictions mean).take k := fun hmem => hout (List.mem_map_of_mem hmem)
    exact precedes_of_comparePredictions hmean (hsub.subset ha) hb
      (hascends.lt_of_mem_take ha hb hnot)

omit h in
lemma recommend_prefix {k k' : Nat} (hle : k ≤ k') : r.recommend k <+: r.recommend k' := by
  cases hmean : r.meanRating? with
  | none =>
    rw [recommend_of_empty (meanRating?_eq_none_iff.1 hmean)]
    exact List.nil_prefix
  | some mean =>
    rw [recommend_of_some hmean, recommend_of_some hmean]
    exact (List.take_prefix_take_left hle).map Prod.fst

lemma mem_ids_of_mem_recommend {id : DocId} (hid : id ∈ r.recommend k) :
    id ∈ r.corpus.documents.ids := by
  cases hmean : r.meanRating? with
  | none =>
    rw [recommend_of_empty (meanRating?_eq_none_iff.1 hmean)] at hid
    exact absurd hid List.not_mem_nil
  | some mean =>
    rw [recommend_of_some hmean] at hid
    exact ((isLowest_take h hmean k).unrated id hid).1

end Lowest

end Recommender

end DocSearch
