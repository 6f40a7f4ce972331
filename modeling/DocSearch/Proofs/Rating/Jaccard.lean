import DocSearch.Proofs.Numeric.Exact
import DocSearch.Proofs.Rating.Similarity

/-!
# Similarity in exact arithmetic

The share that two finite sets have in common is a number from zero to one. It is zero exactly if
the sets are disjoint, also if both are empty, and one exactly if they are equal and not empty
(`jaccard_eq_zero_iff`, `jaccard_eq_one_iff`). So much is known of the similarity of documents by
their tokens (`Recommender.similarity_laws`).
-/

namespace DocSearch

section Sets

variable {β : Type} [DecidableEq β] {s t : Finset β}

lemma jaccard_comm {α : Type} [Scalar α] (s t : Finset β) : (jaccard s t : α) = jaccard t s := by
  rw [jaccard, jaccard, Finset.union_comm, Finset.inter_comm]

lemma jaccard_real (s t : Finset β) :
    (jaccard s t : ℝ) = ((s ∩ t).card : ℝ) / ((s ∪ t).card : ℝ) := by
  rw [jaccard, Scalar.ofNat_real, Scalar.ofNat_real, Scalar.zero_real]
  split
  · next h => rw [h, Nat.cast_zero, div_zero]
  · rfl

lemma jaccard_mem_unit (s t : Finset β) : (jaccard s t : ℝ) ∈ Set.Icc 0 1 := by
  have hle : ((s ∩ t).card : ℝ) ≤ ((s ∪ t).card : ℝ) :=
    Nat.cast_le.2 (Finset.card_le_card Finset.inter_subset_union)
  rw [jaccard_real]
  exact ⟨by positivity, div_le_one_of_le₀ hle (Nat.cast_nonneg _)⟩

/-- Sets have nothing in common if they are disjoint, and also if there is nothing to share. -/
lemma jaccard_eq_zero_iff : (jaccard s t : ℝ) = 0 ↔ Disjoint s t := by
  rw [jaccard_real, div_eq_zero_iff, Nat.cast_eq_zero, Nat.cast_eq_zero, Finset.card_eq_zero,
    Finset.card_eq_zero, Finset.disjoint_iff_inter_eq_empty, or_iff_left_iff_imp]
  -- what is in neither set is not in both
  exact fun hunion => Finset.subset_empty.1 (hunion ▸ Finset.inter_subset_union)

/-- Sets have everything in common if they are the same, and there is something to share. -/
lemma jaccard_eq_one_iff : (jaccard s t : ℝ) = 1 ↔ s = t ∧ s.Nonempty := by
  rw [jaccard_real]
  constructor
  · intro hone
    have hunion : ((s ∪ t).card : ℝ) ≠ 0 := by
      intro hzero
      rw [hzero, div_zero] at hone
      exact zero_ne_one hone
    have hcard : (s ∪ t).card ≤ (s ∩ t).card :=
      (Nat.cast_injective ((div_eq_one_iff_eq hunion).1 hone)).ge
    have hsame : s ∩ t = s ∪ t := Finset.eq_of_subset_of_card_le Finset.inter_subset_union hcard
    obtain rfl : s = t := inf_eq_sup.1 hsame
    refine ⟨rfl, ?_⟩
    rw [Finset.union_idempotent, Nat.cast_ne_zero, Finset.card_ne_zero] at hunion
    exact hunion
  · rintro ⟨rfl, hs⟩
    rw [Finset.inter_self, Finset.union_self]
    exact div_self (Nat.cast_ne_zero.2 hs.card_ne_zero)

end Sets

/-- The distinct tokens of a document. -/
def Document.tokenSet (d : Document) : Finset String := d.tokens.toFinset

namespace Recommender

lemma similarity_comm {α : Type} [Scalar α] (r : Recommender α) (a b : DocId) :
    r.similarity a b = r.similarity b a := by
  rw [similarity, similarity]
  rcases r.corpus.documents.vector? a with _ | v <;> rcases r.corpus.documents.vector? b with _ | w
  · rfl
  · rfl
  · rfl
  · show overlap v w = overlap w v
    rw [overlap_eq, overlap_eq, jaccard_comm]

lemma similarity_mem_unit (r : Recommender ℝ) (a b : DocId) : r.similarity a b ∈ Set.Icc 0 1 := by
  rw [similarity]
  split
  · rw [overlap_eq]
    exact jaccard_mem_unit _ _
  · rw [Scalar.zero_real]
    exact Set.left_mem_Icc.2 zero_le_one

/-- **Similarity by tokens.** In a corpus with no more tokens than there are term ids, and in exact
arithmetic, two documents are as similar as their sets of tokens have members in common among all
that are in either; a document that is not in the corpus is similar to none. The number of all
members is found by a subtraction that never goes below zero. Similarity is symmetric and lies
between zero and one; it is zero exactly if the documents have no token in common, and one exactly
if they have the same tokens, and any at all. -/
theorem similarity_laws {ds : List Document} {r : Recommender ℝ}
    (h : Corpus.build ds = .ok r.corpus)
    (hfew : (ds.flatMap Document.tokens).length ≤ UInt32.size) (a b : DocId) :
    (∀ d ∈ ds, ∀ e ∈ ds, d.id = a → e.id = b →
      r.similarity a b = (if d.tokenSet ∪ e.tokenSet = ∅ then 0
        else ((d.tokenSet ∩ e.tokenSet).card : ℝ) / ((d.tokenSet ∪ e.tokenSet).card : ℝ)) ∧
      (r.similarity a b = 0 ↔ Disjoint d.tokenSet e.tokenSet) ∧
      (r.similarity a b = 1 ↔ d.tokenSet = e.tokenSet ∧ d.tokenSet.Nonempty)) ∧
    (a ∉ ds.map Document.id ∨ b ∉ ds.map Document.id → r.similarity a b = 0) ∧
    (∀ v w : TermVector, v.common w ≤ v.size + w.size) ∧
    r.similarity a b = r.similarity b a ∧ r.similarity a b ∈ Set.Icc 0 1 := by
  refine ⟨?known, ?unknown, TermVector.common_le, similarity_comm r a b, similarity_mem_unit r a b⟩
  case known =>
    rintro d hd e he rfl rfl
    have hjaccard : r.similarity d.id e.id = jaccard d.tokenSet e.tokenSet :=
      similarity_of_build h hfew hd he
    rw [hjaccard, jaccard_eq_zero_iff, jaccard_eq_one_iff, jaccard_real]
    refine ⟨?_, Iff.rfl, Iff.rfl⟩
    split
    · next hempty => rw [hempty, Finset.card_empty, Nat.cast_zero, div_zero]
    · rfl
  case unknown =>
    intro hunknown
    rw [similarity_of_notMem h hunknown, Scalar.zero_real]

theorem half_shared_tokens :
    ∃ (ds : List Document) (r : Recommender ℝ),
      ds = [⟨7, "", ["1", "2", "1"]⟩, ⟨3, "", ["2", "2"]⟩, ⟨5, "", []⟩] ∧
      Corpus.build ds = .ok r.corpus ∧ (ds.flatMap Document.tokens).length ≤ UInt32.size ∧
      r.similarity 7 3 = 1 / 2 ∧ r.similarity 3 7 = 1 / 2 ∧ r.similarity 3 3 = 1 ∧
      r.similarity 5 5 = 0 ∧ r.similarity 9 3 = 0 := by
  obtain ⟨ds, hds⟩ : ∃ ds : List Document,
      ds = [⟨7, "", ["1", "2", "1"]⟩, ⟨3, "", ["2", "2"]⟩, ⟨5, "", []⟩] := ⟨_, rfl⟩
  obtain ⟨c, hc⟩ : ∃ c : Corpus ℝ, Corpus.build ds = .ok c :=
    Corpus.exists_build (by rw [hds]; decide)
  obtain ⟨r, rfl⟩ : ∃ r : Recommender ℝ, r.corpus = c := ⟨⟨c, "", none, ∅⟩, rfl⟩
  have hfew : (ds.flatMap Document.tokens).length ≤ UInt32.size := by rw [hds]; decide
  have hseven : ⟨7, "", ["1", "2", "1"]⟩ ∈ ds := by rw [hds]; decide
  have hthree : ⟨3, "", ["2", "2"]⟩ ∈ ds := by rw [hds]; decide
  have hfive : ⟨5, "", []⟩ ∈ ds := by rw [hds]; decide
  obtain ⟨hshared, -, -, hcomm, -⟩ := similarity_laws hc hfew 7 3
  obtain ⟨hself, -⟩ := similarity_laws hc hfew 3 3
  obtain ⟨hempty, -⟩ := similarity_laws hc hfew 5 5
  obtain ⟨-, hunknown, -⟩ := similarity_laws hc hfew 9 3
  have hhalf : r.similarity 7 3 = 1 / 2 := by
    obtain ⟨hvalue, -⟩ := hshared _ hseven _ hthree rfl rfl
    have hinter : (Document.tokenSet ⟨7, "", ["1", "2", "1"]⟩ ∩
        Document.tokenSet ⟨3, "", ["2", "2"]⟩).card = 1 := by decide
    have hunion : (Document.tokenSet ⟨7, "", ["1", "2", "1"]⟩ ∪
        Document.tokenSet ⟨3, "", ["2", "2"]⟩).card = 2 := by decide
    rw [hvalue, hinter, hunion, if_neg (by decide), Nat.cast_one, Nat.cast_ofNat]
  refine ⟨ds, r, hds, hc, hfew, hhalf, hcomm ▸ hhalf, ?_, ?_, hunknown (.inl (by rw [hds]; decide))⟩
  · exact (hself _ hthree _ hthree rfl rfl).2.2.2 ⟨rfl, by decide⟩
  · exact (hempty _ hfive _ hfive rfl rfl).2.1.2 (by decide)

end Recommender

end DocSearch
