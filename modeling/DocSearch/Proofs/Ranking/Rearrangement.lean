import DocSearch.Proofs.Index.Counts
import DocSearch.Proofs.Numeric.Binary64
import DocSearch.Proofs.Ranking.Boolean
import DocSearch.Proofs.Rating.Similarity

/-!
# The order of the documents

Corpora that are built from the same documents in different order (`Rearranged`) give different ids
to the terms, and keep documents and frequencies at different places. None of this can be told from
what they answer (`rankings_eq_of_perm`).

An id of one corpus corresponds to the id of the other one that stands for the same token. Such ids
have the same frequencies and the same rarity (`Rearranged.tf_eq`, `Rearranged.idf_eq`). The largest
rarity is the same as well, since the largest of zero and others does not depend on how they are
arranged (`Rearranged.maxIdf_eq`). So the weights agree, of tokens and of whole queries. Rankings
are sorted, in whatever order their documents come.
-/

namespace DocSearch

open Query (Conjunction Dnf Literal)

/-! ## Weights that agree -/

namespace ExtendedBoolean

variable {α : Type} [Scalar α] {c c' : Corpus α} {id : DocId}

lemma literalWeight_congr (h : ∀ token, termWeight c id token = termWeight c' id token)
    (l : Literal) : literalWeight c id l = literalWeight c' id l := by
  rw [literalWeight, literalWeight, h]

lemma conjunctionWeight_congr (h : ∀ token, termWeight c id token = termWeight c' id token)
    (q : Conjunction) : conjunctionWeight c id q = conjunctionWeight c' id q := by
  rw [conjunctionWeight, conjunctionWeight]
  exact congrArg allWeight (List.map_congr_left fun l _ => literalWeight_congr h l)

/-- The weight of a query in a document depends on the weights of the tokens there. -/
lemma weight_congr (h : ∀ token, termWeight c id token = termWeight c' id token) (q : Dnf) :
    weight c id q = weight c' id q := by
  cases q with
  | empty | never | always => rfl
  | clauses qs =>
    exact congrArg anyWeight (List.map_congr_left fun k _ => conjunctionWeight_congr h k)

end ExtendedBoolean

/-! ## Rearranged corpora -/

/-- Two corpora that are built from the same documents, which may come in different order. -/
structure Rearranged {α : Type} [Scalar α] (ds ds' : List Document) (c c' : Corpus α) : Prop where
  perm : ds.Perm ds'
  build : Corpus.build ds = .ok c
  build' : Corpus.build ds' = .ok c'
  few : (ds.flatMap Document.tokens).length < UInt32.size

/-- A token is as rare among documents in any order. -/
lemma rarity_of_perm {α : Type} [Scalar α] {ds ds' : List Document} (h : ds.Perm ds') :
    (rarity ds : String → α) = rarity ds' := by
  funext token
  rw [rarity, rarity, h.length_eq, h.countP_eq]

namespace Rearranged

section Terms

variable {α : Type} [Scalar α] {ds ds' : List Document} {c c' : Corpus α} {token : String}
  {t t' : TermId} {d : Document} (h : Rearranged ds ds' c c')

include h

lemma few' : (ds'.flatMap Document.tokens).length < UInt32.size := by
  rw [← (h.perm.flatMap_right Document.tokens).length_eq]
  exact h.few

lemma symm : Rearranged ds' ds c' c :=
  ⟨h.perm.symm, h.build', h.build, h.few'⟩

lemma ids_perm : c.documents.ids.Perm c'.documents.ids := by
  rw [Corpus.ids_of_build h.build, Corpus.ids_of_build h.build']
  exact h.perm.map Document.id

/-- The corpora have the same terms. -/
lemma terms_perm : c.index.terms.toList.Perm c'.index.terms.toList := by
  refine (List.perm_ext_iff_of_nodup (Corpus.nodup_terms h.build)
    (Corpus.nodup_terms h.build')).2 fun token => ?_
  rw [Corpus.terms_of_build h.build, Corpus.terms_of_build h.build', List.mem_eraseDups,
    List.mem_eraseDups, (h.perm.flatMap_right Document.tokens).mem_iff]

/-- What has an id in one corpus has one in the other. -/
lemma exists_termId? (ht : c.index.termId? token = some t) :
    ∃ t', c'.index.termId? token = some t' := by
  obtain ⟨d, hd, htoken⟩ := (Corpus.exists_termId?_iff h.build h.few).1 ⟨t, ht⟩
  exact (Corpus.exists_termId?_iff h.build' h.few').2 ⟨d, h.perm.mem_iff.1 hd, htoken⟩

/-- Terms of the same token are equally frequent in a document. -/
lemma tf_eq (ht : c.index.token? t = some token) (ht' : c'.index.token? t' = some token)
    (hd : d ∈ ds) : c.tf t d.id = c'.tf t' d.id := by
  have hd' : d ∈ ds' := h.perm.mem_iff.1 hd
  have hfrequency : c.documents.frequency t d.id = c'.documents.frequency t' d.id := by
    rw [← UInt32.toNat_inj, Corpus.toNat_frequency h.build h.few ht hd,
      Corpus.toNat_frequency h.build' h.few' ht' hd']
  have hhighest : c.documents.maxCount d.id = c'.documents.maxCount d.id := by
    rw [← UInt32.toNat_inj, Corpus.toNat_maxCount h.build h.few hd,
      Corpus.toNat_maxCount h.build' h.few' hd']
  rw [Corpus.tf, Corpus.tf, hfrequency, hhighest]

/-- Terms of the same token are equally rare. -/
lemma idf_eq (ht : c.index.token? t = some token) (ht' : c'.index.token? t' = some token) :
    c.idf t = c'.idf t' := by
  rw [Corpus.idf_eq_rarity h.build h.few ht, Corpus.idf_eq_rarity h.build' h.few' ht',
    rarity_of_perm h.perm]

end Terms

/-! ## Answers -/

section Answers

variable {ds ds' : List Document} {c c' : Corpus Binary64} (h : Rearranged ds ds' c c')

include h

lemma maxIdf_eq : c.maxIdf = c'.maxIdf := by
  rw [Corpus.maxIdf_eq_rarities h.build h.few, Corpus.maxIdf_eq_rarities h.build' h.few',
    rarity_of_perm h.perm]
  exact Binary64.foldl_max_of_perm (h.terms_perm.map _)

lemma termWeight_eq {d : Document} (hd : d ∈ ds) (token : String) :
    ExtendedBoolean.termWeight c d.id token = ExtendedBoolean.termWeight c' d.id token := by
  rcases ht : c.index.termId? token with _ | t <;> rcases ht' : c'.index.termId? token with _ | t'
  · simp only [ExtendedBoolean.termWeight, ht, ht']
  · obtain ⟨s, hs⟩ := h.symm.exists_termId? ht'
    exact absurd (hs.symm.trans ht) (by simp)
  · obtain ⟨s, hs⟩ := h.exists_termId? ht
    exact absurd (hs.symm.trans ht') (by simp)
  · have htoken := (Corpus.invertible_of_build h.build (Nat.le_of_lt h.few) token t).1 ht
    have htoken' := (Corpus.invertible_of_build h.build' (Nat.le_of_lt h.few') token t').1 ht'
    simp only [ExtendedBoolean.termWeight, ht, ht', Corpus.normalizedIdf,
      h.tf_eq htoken htoken' hd, h.idf_eq htoken htoken', h.maxIdf_eq]

lemma boolean_rank_eq (q : Dnf) : Boolean.rank c q = Boolean.rank c' q := by
  have hids : (ds.map Document.id).Nodup :=
    DocumentStore.nodup_of_ofLists (Corpus.documents_of_build h.build)
  have hhits : (Boolean.hits ds q).Perm (Boolean.hits ds' q) := (h.perm.filter _).map _
  rw [Boolean.rank_of_build h.build (Nat.le_of_lt h.few),
    Boolean.rank_of_build h.build' (Nat.le_of_lt h.few')]
  refine Ranking.ofList_of_perm (hhits.map _) ?_
  rw [Ranking.map_fst_scored]
  exact Boolean.nodup_hits hids q

lemma extendedBoolean_rank_eq (q : Dnf) : ExtendedBoolean.rank c q = ExtendedBoolean.rank c' q := by
  have hscores : c.documents.ids.map (fun id => (id, ExtendedBoolean.weight c id q)) =
      c.documents.ids.map fun id => (id, ExtendedBoolean.weight c' id q) := by
    refine List.map_congr_left fun id hid => ?_
    rw [Corpus.ids_of_build h.build] at hid
    obtain ⟨d, hd, rfl⟩ := List.mem_map.1 hid
    rw [ExtendedBoolean.weight_congr (h.termWeight_eq hd)]
  rw [ExtendedBoolean.rank, ExtendedBoolean.rank, hscores]
  refine Ranking.ofList_of_perm ((h.ids_perm.map _).filter _) ?_
  refine List.Nodup.sublist (List.filter_sublist.map Prod.fst) ?_
  rw [Ranking.map_fst_scored]
  exact DocumentStore.nodup_ids (Corpus.documents_of_build h.build)

lemma similarity_eq {r r' : Recommender Binary64} (hr : r.corpus = c) (hr' : r'.corpus = c')
    (a b : DocId) : r.similarity a b = r'.similarity a b := by
  subst hr hr'
  have hids : ∀ id, id ∈ ds.map Document.id ↔ id ∈ ds'.map Document.id :=
    fun id => (h.perm.map Document.id).mem_iff
  by_cases hknown : a ∈ ds.map Document.id ∧ b ∈ ds.map Document.id
  · obtain ⟨d, hd, rfl⟩ := List.mem_map.1 hknown.1
    obtain ⟨e, he, rfl⟩ := List.mem_map.1 hknown.2
    rw [Recommender.similarity_of_build h.build (Nat.le_of_lt h.few) hd he,
      Recommender.similarity_of_build h.build' (Nat.le_of_lt h.few') (h.perm.mem_iff.1 hd)
        (h.perm.mem_iff.1 he)]
  · rw [not_and_or] at hknown
    rw [Recommender.similarity_of_notMem h.build hknown,
      Recommender.similarity_of_notMem h.build' (by rwa [hids, hids] at hknown)]

end Answers

end Rearranged

/-- **The order of the documents does not matter.** Documents with distinct ids and fewer tokens
than there are term ids make a corpus in any order. Both boolean models give the same answer over
all of these corpora to any query, be it an error or a ranking with its scores, and any two
documents are equally similar in all of them. -/
theorem rankings_eq_of_perm {ds ds' : List Document} (hperm : ds.Perm ds')
    (hids : (ds.map Document.id).Nodup)
    (hfew : (ds.flatMap Document.tokens).length < UInt32.size) :
    ∃ c c' : Corpus Binary64, Corpus.build ds = .ok c ∧ Corpus.build ds' = .ok c' ∧
      (∀ (compiler : Query.Compiler) (query : String),
        (Model.boolean compiler).rank c query = (Model.boolean compiler).rank c' query) ∧
      (∀ (compiler : Query.Compiler) (query : String),
        (Model.extendedBoolean compiler).rank c query =
          (Model.extendedBoolean compiler).rank c' query) ∧
      ∀ r r' : Recommender Binary64, r.corpus = c → r'.corpus = c' →
        ∀ a b, r.similarity a b = r'.similarity a b := by
  obtain ⟨c, hc⟩ : ∃ c : Corpus Binary64, Corpus.build ds = .ok c := Corpus.exists_build hids
  obtain ⟨c', hc'⟩ : ∃ c' : Corpus Binary64, Corpus.build ds' = .ok c' :=
    Corpus.exists_build ((hperm.map Document.id).nodup hids)
  have h : Rearranged ds ds' c c' := ⟨hperm, hc, hc', hfew⟩
  refine ⟨c, c', hc, hc', ?boolean, ?extended, fun r r' hr hr' => h.similarity_eq hr hr'⟩
  case boolean =>
    intro compiler query
    rw [Model.rank, Model.rank, funext h.boolean_rank_eq]
  case extended =>
    intro compiler query
    rw [Model.rank, Model.rank, funext h.extendedBoolean_rank_eq]

/-- The terms are listed in different order in the two corpora. -/
theorem two_documents_rearranged :
    ∃ (ds ds' : List Document) (c c' : Corpus Binary64),
      ds = [⟨7, "", ["1", "2"]⟩, ⟨3, "", ["2", "3", "2"]⟩] ∧ ds' = ds.reverse ∧
      ds.Perm ds' ∧ (ds.map Document.id).Nodup ∧
      (ds.flatMap Document.tokens).length < UInt32.size ∧
      Corpus.build ds = .ok c ∧ Corpus.build ds' = .ok c' ∧
      c.index.terms.toList = ["1", "2", "3"] ∧ c'.index.terms.toList = ["2", "3", "1"] ∧
      (Model.extendedBoolean {}).rank c "1 2" = (Model.extendedBoolean {}).rank c' "1 2" ∧
      ∀ r r' : Recommender Binary64, r.corpus = c → r'.corpus = c' →
        r.similarity 7 3 = r'.similarity 7 3 := by
  obtain ⟨ds, hds⟩ : ∃ ds : List Document,
      ds = [⟨7, "", ["1", "2"]⟩, ⟨3, "", ["2", "3", "2"]⟩] := ⟨_, rfl⟩
  have hids : (ds.map Document.id).Nodup := by rw [hds]; decide
  have hfew : (ds.flatMap Document.tokens).length < UInt32.size := by rw [hds]; decide
  have hperm : ds.Perm ds.reverse := (List.reverse_perm ds).symm
  obtain ⟨c, c', hc, hc', -, hextended, hsimilarity⟩ := rankings_eq_of_perm hperm hids hfew
  have hterms : c.index.terms.toList = ["1", "2", "3"] := by
    rw [Corpus.terms_of_build hc, hds]
    decide
  have hterms' : c'.index.terms.toList = ["2", "3", "1"] := by
    rw [Corpus.terms_of_build hc', hds]
    decide
  exact ⟨ds, _, c, c', hds, rfl, hperm, hids, hfew, hc, hc', hterms, hterms', hextended {} "1 2",
    fun r r' hr hr' => hsimilarity r r' hr hr' 7 3⟩

end DocSearch
