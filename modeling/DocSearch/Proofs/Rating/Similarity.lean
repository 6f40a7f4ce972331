import Mathlib.Data.Finset.Card
import DocSearch.Proofs.Index.Construction
import DocSearch.Rating.Recommender

/-!
# Similarity of documents

Two documents are as similar as their sets of terms: the share of terms that both have among those
that either has (`jaccard`). Only the number of terms matters, so that a set may be replaced by its
image under any injective renaming (`jaccard_image`). So the similarity of the documents of a built
corpus can be told from their tokens (`Recommender.similarity_of_build`).
-/

namespace DocSearch

/-- The share that two sets have in common of all that is in either; zero for empty sets. -/
def jaccard {α β : Type} [Scalar α] [DecidableEq β] (s t : Finset β) : α :=
  if (s ∪ t).card = 0 then Scalar.zero
  else Scalar.ofNat (s ∩ t).card / Scalar.ofNat (s ∪ t).card

section Sets

variable {α β γ : Type} [Scalar α] [DecidableEq β] [DecidableEq γ]

/-- Renaming the members does not change the share that two sets have in common. -/
lemma jaccard_image {f : β → γ} {s t : Finset β} (hf : Set.InjOn f (s ∪ t : Finset β)) :
    (jaccard (s.image f) (t.image f) : α) = jaccard s t := by
  have hunion : (s.image f ∪ t.image f).card = (s ∪ t).card := by
    rw [← Finset.image_union, Finset.card_image_of_injOn hf]
  have hinter : (s.image f ∩ t.image f).card = (s ∩ t).card := by
    rw [← Finset.image_inter_of_injOn s t (by simpa using hf), Finset.card_image_of_injOn]
    exact hf.mono (Finset.coe_subset.2 Finset.inter_subset_union)
  rw [jaccard, jaccard, hunion, hinter]

end Sets

namespace TermVector

/-- The terms that occur. -/
def terms (v : TermVector) : Finset TermId := v.keys.toFinset

@[simp] lemma mem_terms {v : TermVector} {t : TermId} : t ∈ v.terms ↔ t ∈ v := by
  rw [terms, List.mem_toFinset, Std.ExtTreeMap.mem_keys]

@[simp] lemma card_terms (v : TermVector) : v.terms.card = v.size := by
  rw [terms, List.toFinset_card_of_nodup Std.ExtTreeMap.nodup_keys, Std.ExtTreeMap.length_keys]

lemma length_filter_contains (v w : TermVector) :
    (v.keys.filter w.contains).length = (v.terms ∩ w.terms).card := by
  rw [← List.toFinset_card_of_nodup (Std.ExtTreeMap.nodup_keys.sublist List.filter_sublist)]
  congr 1
  ext t
  simp

/-- Which of two vectors is looked through, and which looked up, makes no difference. -/
lemma common_eq (v w : TermVector) : v.common w = (v.terms ∩ w.terms).card := by
  rw [common]
  by_cases hsmall : v.size ≤ w.size
  · simp only [if_pos hsmall, length_filter_contains]
  · simp only [if_neg hsmall, length_filter_contains, Finset.inter_comm w.terms]

/-- The terms of two vectors together, less those that were counted twice. -/
lemma card_terms_union (v w : TermVector) :
    (v.terms ∪ w.terms).card = v.size + w.size - v.common w := by
  rw [Finset.card_union, card_terms, card_terms, common_eq]

/-- What two vectors have in common is counted in both of them. -/
lemma common_le (v w : TermVector) : v.common w ≤ v.size + w.size := by
  rw [common_eq, ← card_terms, ← card_terms]
  exact (Finset.card_le_card Finset.inter_subset_left).trans (Nat.le_add_right _ _)

end TermVector

namespace TermIndex

variable {x : TermIndex} {tokens : List String}

/-- The terms of a bag stand for the tokens that it was made of. -/
lemma image_terms_bagOfWords (hx : x.Invertible) (hknown : x.Knows tokens) :
    (x.bagOfWords tokens).terms.image x.token? = tokens.toFinset.image some := by
  ext token
  simp only [Finset.mem_image, TermVector.mem_terms, mem_bagOfWords, List.mem_toFinset]
  constructor
  · rintro ⟨t, ⟨u, hu, hut⟩, rfl⟩
    exact ⟨u, hu, ((hx u t).1 hut).symm⟩
  · rintro ⟨u, hu, rfl⟩
    obtain ⟨t, ht⟩ := hknown u hu
    exact ⟨t, ⟨u, hu, ht⟩, (hx u t).1 ht⟩

/-- No two terms stand for the same token. -/
lemma Invertible.injOn_token? (hx : x.Invertible) {s : Set TermId}
    (hs : ∀ t ∈ s, ∃ token, x.token? t = some token) : Set.InjOn x.token? s := by
  intro t ht t' _ heq
  obtain ⟨token, htoken⟩ := hs t ht
  have hid := (hx token t).2 htoken
  have hid' := (hx token t').2 (heq ▸ htoken)
  exact Option.some.inj (hid.symm.trans hid')

end TermIndex

namespace Corpus

variable {α : Type}

/-- Some term occurs in both documents. -/
def ShareTerm (c : Corpus α) (a b : DocId) : Prop :=
  ∃ v w t, c.documents.vector? a = some v ∧ c.documents.vector? b = some w ∧ t ∈ v ∧ t ∈ w

/-- Documents share a term exactly if they share a token. -/
lemma shareTerm_iff_of_build [Scalar α] {ds : List Document} {c : Corpus α}
    (h : build ds = .ok c) (hfew : (ds.flatMap Document.tokens).length ≤ UInt32.size)
    {d e : Document} (hd : d ∈ ds) (he : e ∈ ds) :
    c.ShareTerm d.id e.id ↔ ∃ token ∈ d.tokens, token ∈ e.tokens := by
  have hx := invertible_of_build h hfew
  simp only [ShareTerm, vector?_of_build h hd, vector?_of_build h he, Option.some.injEq,
    exists_and_left, exists_eq_left', TermIndex.mem_bagOfWords]
  constructor
  · rintro ⟨t, ⟨token, htoken, ht⟩, token', htoken', ht'⟩
    have hsame := ((hx token t).1 ht).symm.trans ((hx token' t).1 ht')
    exact ⟨token, htoken, Option.some.inj hsame ▸ htoken'⟩
  · rintro ⟨token, htoken, htoken'⟩
    obtain ⟨t, ht⟩ := knows_of_build h d hd token htoken
    exact ⟨t, ⟨token, htoken, ht⟩, token, htoken', ht⟩

end Corpus

namespace Recommender

variable {α : Type} [Scalar α]

/-- The terms that two vectors have in common are counted, and the others by way of them. -/
theorem overlap_eq (v w : TermVector) : (overlap v w : α) = jaccard v.terms w.terms := by
  rw [jaccard, TermVector.card_terms_union, ← TermVector.common_eq]
  rfl

lemma overlap_bagOfWords {x : TermIndex} (hx : x.Invertible) {tokens tokens' : List String}
    (hknown : x.Knows tokens) (hknown' : x.Knows tokens') :
    (overlap (x.bagOfWords tokens) (x.bagOfWords tokens') : α) =
      jaccard tokens.toFinset tokens'.toFinset := by
  have hinj : Set.InjOn x.token?
      ((x.bagOfWords tokens).terms ∪ (x.bagOfWords tokens').terms : Finset TermId) := by
    refine hx.injOn_token? fun t ht => ?_
    rcases Finset.mem_union.1 (Finset.mem_coe.1 ht) with ht | ht
    all_goals
      obtain ⟨token, -, hid⟩ := TermIndex.mem_bagOfWords.1 (TermVector.mem_terms.1 ht)
      exact ⟨token, (hx token t).1 hid⟩
  rw [overlap_eq, ← jaccard_image hinj, TermIndex.image_terms_bagOfWords hx hknown,
    TermIndex.image_terms_bagOfWords hx hknown', jaccard_image (Option.some_injective _).injOn]

section Built

variable {ds : List Document} {r : Recommender α} (h : Corpus.build ds = .ok r.corpus)

include h

/-- A document that is not in the corpus is similar to none. -/
lemma similarity_of_notMem {a b : DocId}
    (hunknown : a ∉ ds.map Document.id ∨ b ∉ ds.map Document.id) :
    r.similarity a b = Scalar.zero := by
  have hknown : ∀ id v, r.corpus.documents.vector? id = some v → id ∈ ds.map Document.id := by
    intro id v hv
    rw [← Corpus.ids_of_build h]
    have hdocuments := Corpus.documents_of_build h
    exact (DocumentStore.exists_vector?_iff hdocuments (by simp)).1 ⟨v, hv⟩
  rw [similarity]
  split
  · next v w hv hw =>
    rcases hunknown with ha | hb
    · exact absurd (hknown a v hv) ha
    · exact absurd (hknown b w hw) hb
  · rfl

variable (hfew : (ds.flatMap Document.tokens).length ≤ UInt32.size) {d e : Document} (hd : d ∈ ds)
  (he : e ∈ ds)

include hfew hd he

/-- Documents are as similar as their sets of tokens. -/
theorem similarity_of_build :
    r.similarity d.id e.id = jaccard d.tokens.toFinset e.tokens.toFinset := by
  rw [similarity, Corpus.vector?_of_build h hd, Corpus.vector?_of_build h he]
  exact overlap_bagOfWords (Corpus.invertible_of_build h hfew) (Corpus.knows_of_build h d hd)
    (Corpus.knows_of_build h e he)

end Built

end Recommender

end DocSearch
