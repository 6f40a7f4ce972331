import DocSearch.Proofs.Index.Statistics
import DocSearch.Proofs.Ranking.Cosine

/-!
# Vector search

The vector model scores a document by the cosine of the angle between its weights and those of the
query. For corpora that are built from documents and for smoothing between zero and one, no weight
is negative, and both the weights of a query and those of a document are positive where they should
be (`exists_of_mem_queryWeights`, `documentWeight_pos_iff`). So the score is between zero and one,
is zero exactly if the document has none of the terms of the query that tell documents apart, and is
one exactly if the weights of the document are in the proportions of the query (`similarity_exact`).
-/

namespace DocSearch

lemma TermVector.mem_toList_iff {v : TermVector} {t : TermId} {n : UInt32} :
    (t, n) ∈ v.toList ↔ t ∈ v ∧ v.count t = n := by
  rw [Std.ExtTreeMap.mem_toList_iff_getElem?_eq_some, getElem?_eq_some_iff]

namespace Vector

/-! ## Queries -/

/-- The vector counts known terms, each at least once. -/
structure IsQuery (x : TermIndex) (query : TermVector) : Prop where
  pos : ∀ t ∈ query, 0 < (query.count t).toNat
  known : ∀ t ∈ query, ∃ token, x.token? t = some token

/-- A query with a term has a highest count. -/
lemma IsQuery.maxCount_ne_zero {x : TermIndex} {query : TermVector} {t : TermId}
    (hquery : IsQuery x query) (ht : t ∈ query) : query.maxCount ≠ 0 := by
  intro hzero
  have hle := query.count_le_maxCount t
  rw [hzero] at hle
  exact absurd hle (Nat.not_le_of_gt (hquery.pos t ht))

/-- The vector of the tokens of a query is one. -/
lemma isQuery_bagOfWords {x : TermIndex} (hx : x.Invertible) {tokens : List String}
    (hfew : tokens.length < UInt32.size) : IsQuery x (x.bagOfWords tokens) := by
  have hcount : ∀ t ∈ x.bagOfWords tokens, ∃ token ∈ tokens, x.token? t = some token ∧
      ((x.bagOfWords tokens).count t).toNat = tokens.count token := fun t ht =>
    (hx.getElem?_bagOfWords_eq_some_iff hfew).1 (TermVector.getElem?_eq_some_iff.2 ⟨ht, rfl⟩)
  constructor
  · intro t ht
    obtain ⟨token, htoken, -, heq⟩ := hcount t ht
    exact heq ▸ List.count_pos_iff.2 htoken
  · intro t ht
    obtain ⟨token, -, htoken, -⟩ := hcount t ht
    exact ⟨token, htoken⟩

section Weights

variable {c : Corpus ℝ} {p : Params ℝ} {query : TermVector} {t : TermId} {w : ℝ}

/-- Smoothing leaves every term of a query with a positive share. -/
lemma smoothed_pos {a tf : ℝ} (ha : a ∈ Set.Icc 0 1) (htf : 0 < tf) : 0 < a + (1 - a) * tf := by
  obtain ⟨hzero, hone⟩ := ha
  rcases hzero.eq_or_lt with rfl | hpos
  · simpa using htf
  · exact add_pos_of_pos_of_nonneg hpos (mul_nonneg (sub_nonneg.2 hone) htf.le)

/-- The weight of a term in a query is a positive multiple of its rarity. -/
lemma exists_of_mem_queryWeights (hquery : IsQuery c.index query)
    (hsmoothing : p.smoothing ∈ Set.Icc 0 1) (h : (t, w) ∈ queryWeights c p query) :
    t ∈ query ∧ ∃ k, 0 < k ∧ w = k * c.idf t := by
  rw [queryWeights] at h
  split at h
  · exact absurd h List.not_mem_nil
  · next hhighest =>
    obtain ⟨⟨s, n⟩, hn, heq⟩ := List.mem_map.1 h
    obtain ⟨rfl, rfl⟩ := Prod.mk.inj heq
    obtain ⟨hs, rfl⟩ := TermVector.mem_toList_iff.1 hn
    have hcount := hquery.pos s hs
    have hhighest' := hcount.trans_le (query.count_le_maxCount s)
    have htf : (0 : ℝ) < (query.count s).toNat / query.maxCount.toNat := by positivity
    exact ⟨hs, _, smoothed_pos hsmoothing htf, by simp⟩

/-- Every term of a query has a weight. -/
lemma exists_mem_queryWeights (hquery : IsQuery c.index query) (ht : t ∈ query) :
    ∃ w, (t, w) ∈ queryWeights c p query := by
  rw [queryWeights, if_neg (hquery.maxCount_ne_zero ht)]
  exact ⟨_, List.mem_map_of_mem (TermVector.mem_toList_iff.2 ⟨ht, rfl⟩)⟩

lemma queryWeights_of_single (hquery : IsQuery c.index query) {n : UInt32}
    (hsingle : query.toList = [(t, n)]) : ∃ w, queryWeights c p query = [(t, w)] := by
  have ht : t ∈ query :=
    (TermVector.mem_toList_iff.1 (hsingle ▸ List.mem_singleton_self (t, n))).1
  rw [queryWeights, if_neg (hquery.maxCount_ne_zero ht), hsingle]
  exact ⟨_, rfl⟩

end Weights

/-! ## Documents -/

/-- The weights of a document above those of a query. -/
noncomputable def weightPairs (c : Corpus ℝ) (id : DocId) (weights : List (TermId × ℝ)) :
    List (ℝ × ℝ) :=
  weights.map fun (t, w) => (documentWeight c id t, w)

section Similarity

variable (c : Corpus ℝ) (id : DocId) (weights : List (TermId × ℝ))

lemma similarity_eq_min : similarity c id weights =
    if inner ((weightPairs c id weights).map fun (x, _) => (x, x)) = 0 ∨
        inner ((weightPairs c id weights).map fun (_, y) => (y, y)) = 0 then 0
    else min (cosine (weightPairs c id weights)) 1 := by
  simp [similarity, weightPairs, cosine]

/-- The score is the cosine, which is zero by itself if one of the vectors has no length, and not
above one. -/
theorem similarity_eq : similarity c id weights = cosine (weightPairs c id weights) := by
  rw [similarity_eq_min]
  split
  · next hzero => rcases hzero with hzero | hzero <;> simp [cosine, hzero]
  · exact min_eq_left (cosine_le_one _)

/-- A document scores one exactly if its weights are in the proportions of the query. -/
lemma similarity_eq_one_iff : similarity c id weights = 1 ↔ (∃ q ∈ weights, q.2 ≠ 0) ∧
    ∃ k, 0 < k ∧ ∀ q ∈ weights, documentWeight c id q.1 = k * q.2 := by
  rw [similarity_eq, cosine_eq_one_iff]
  simp only [weightPairs, List.mem_map, exists_exists_and_eq_and, forall_exists_index, and_imp,
    forall_apply_eq_imp_iff₂]

end Similarity

section Documents

variable {ds : List Document} {c : Corpus ℝ} {token : String} {t : TermId}
  (h : Corpus.build ds = .ok c) (hfew : (ds.flatMap Document.tokens).length < UInt32.size)

include h hfew

lemma documentWeight_nonneg (id : DocId) (t : TermId) : 0 ≤ documentWeight c id t :=
  mul_nonneg (Corpus.tf_mem_unit h t id).1 (Corpus.idf_nonneg h hfew t)

/-- A term weighs something in the documents that contain it, unless all of them do. -/
theorem documentWeight_pos_iff (ht : c.index.token? t = some token) {d : Document} (hd : d ∈ ds) :
    0 < documentWeight c d.id t ↔ token ∈ d.tokens ∧ ∃ e ∈ ds, token ∉ e.tokens := by
  rw [documentWeight, mul_pos_iff_of_nonneg (Corpus.tf_mem_unit h t d.id).1
    (Corpus.idf_nonneg h hfew t), Corpus.tf_pos_iff h hfew ht hd, Corpus.idf_pos_iff h hfew ht]

variable {p : Params ℝ} {query : TermVector} (hquery : IsQuery c.index query)
  (hsmoothing : p.smoothing ∈ Set.Icc 0 1)

include hquery hsmoothing

/-- The weights of a document and of a query do not point in opposite directions. -/
lemma product_nonneg {id : DocId} {x y : ℝ}
    (hxy : (x, y) ∈ weightPairs c id (queryWeights c p query)) : 0 ≤ x * y := by
  obtain ⟨⟨t, w⟩, hw, heq⟩ := List.mem_map.1 hxy
  obtain ⟨rfl, rfl⟩ := Prod.mk.inj heq
  obtain ⟨-, k, hk, rfl⟩ := exists_of_mem_queryWeights hquery hsmoothing hw
  have hidf := Corpus.idf_nonneg h hfew t
  have hdocument := documentWeight_nonneg h hfew id t
  positivity

lemma product_pos_iff (ht : c.index.token? t = some token) {d : Document} (hd : d ∈ ds) {w : ℝ}
    (hw : (t, w) ∈ queryWeights c p query) : 0 < documentWeight c d.id t * w ↔
      token ∈ d.tokens ∧ ∃ e ∈ ds, token ∉ e.tokens := by
  obtain ⟨-, k, hk, rfl⟩ := exists_of_mem_queryWeights hquery hsmoothing hw
  have hidf := Corpus.idf_nonneg h hfew t
  rw [mul_pos_iff_of_nonneg (documentWeight_nonneg h hfew d.id t) (mul_nonneg hk.le hidf),
    documentWeight_pos_iff h hfew ht hd, mul_pos_iff_of_pos_left hk, Corpus.idf_pos_iff h hfew ht,
    and_assoc, and_self]

/-- A document scores zero exactly if it has no term of the query that tells documents apart. -/
lemma similarity_eq_zero_iff {d : Document} (hd : d ∈ ds) :
    similarity c d.id (queryWeights c p query) = 0 ↔ ∀ t ∈ query, ∀ token,
      c.index.token? t = some token → (∃ e ∈ ds, token ∉ e.tokens) → token ∉ d.tokens := by
  have hnonneg : ∀ q ∈ weightPairs c d.id (queryWeights c p query), 0 ≤ q.1 * q.2 :=
    fun q hq => product_nonneg h hfew hquery hsmoothing hq
  rw [similarity_eq, cosine_eq_zero_iff hnonneg]
  constructor
  · intro hzero t ht token htoken hrare hmem
    -- the term has a weight in the query and would have one in the document
    obtain ⟨w, hw⟩ := exists_mem_queryWeights (c := c) (p := p) hquery ht
    have hpos := (product_pos_iff h hfew hquery hsmoothing htoken hd hw).2 ⟨hmem, hrare⟩
    exact hpos.ne' (hzero _ (List.mem_map_of_mem hw))
  · intro hnone q hq
    -- the product could only be positive, and then the term would be informative
    refine le_antisymm (not_lt.1 fun hpos => ?_) (hnonneg q hq)
    obtain ⟨⟨t, w⟩, hw, rfl⟩ := List.mem_map.1 hq
    obtain ⟨ht, -⟩ := exists_of_mem_queryWeights hquery hsmoothing hw
    obtain ⟨token, htoken⟩ := hquery.known t ht
    obtain ⟨hmem, hrare⟩ := (product_pos_iff h hfew hquery hsmoothing htoken hd hw).1 hpos
    exact hnone t ht token htoken hrare hmem

/-- The only term of a query gives the score one. -/
lemma similarity_of_single {n : UInt32} (hsingle : query.toList = [(t, n)])
    (ht : c.index.token? t = some token) (hrare : ∃ e ∈ ds, token ∉ e.tokens) {d : Document}
    (hd : d ∈ ds) (hmem : token ∈ d.tokens) : similarity c d.id (queryWeights c p query) = 1 := by
  obtain ⟨w, hw⟩ := queryWeights_of_single (c := c) (p := p) hquery hsingle
  have hmem' : (t, w) ∈ queryWeights c p query := hw ▸ List.mem_singleton_self (t, w)
  obtain ⟨-, k, hk, heq⟩ := exists_of_mem_queryWeights hquery hsmoothing hmem'
  have hidf : 0 < c.idf t := (Corpus.idf_pos_iff h hfew ht).2 hrare
  have hdocument := (documentWeight_pos_iff h hfew ht hd).2 ⟨hmem, hrare⟩
  have hpos : 0 < w := heq ▸ mul_pos hk hidf
  rw [hw, similarity_eq_one_iff]
  -- with a single term the proportion is the quotient of the two weights
  refine ⟨⟨_, List.mem_singleton_self _, hpos.ne'⟩, documentWeight c d.id t / w,
    div_pos hdocument hpos, List.forall_mem_singleton.2 ?_⟩
  exact (div_mul_cancel₀ _ hpos.ne').symm

end Documents

/-- **The score is a cosine of weights.** Over the corpus of documents with fewer tokens than there
are term ids, let a query count known terms and the smoothing be between zero and one. Then the
quotient that is the score of a document is at most one before it is cut off there. The score is
between zero and one. It is zero exactly if no term of the query that some document lacks occurs in
this one, and one exactly if the weights of the query are not all zero and those of the document are
a positive multiple of them. So a query of a single term that some document lacks scores one in the
documents that have it. -/
theorem similarity_exact {ds : List Document} {c : Corpus ℝ} {p : Params ℝ} {query : TermVector}
    (h : Corpus.build ds = .ok c) (hfew : (ds.flatMap Document.tokens).length < UInt32.size)
    (hquery : IsQuery c.index query) (hsmoothing : p.smoothing ∈ Set.Icc 0 1) :
    ∀ d ∈ ds,
      cosine (weightPairs c d.id (queryWeights c p query)) ≤ 1 ∧
      similarity c d.id (queryWeights c p query) ∈ Set.Icc 0 1 ∧
      (similarity c d.id (queryWeights c p query) = 0 ↔ ∀ t ∈ query, ∀ token,
        c.index.token? t = some token → (∃ e ∈ ds, token ∉ e.tokens) → token ∉ d.tokens) ∧
      (similarity c d.id (queryWeights c p query) = 1 ↔
        (∃ q ∈ queryWeights c p query, q.2 ≠ 0) ∧
          ∃ k, 0 < k ∧ ∀ q ∈ queryWeights c p query, documentWeight c d.id q.1 = k * q.2) ∧
      ∀ t n token, query.toList = [(t, n)] → c.index.token? t = some token →
        (∃ e ∈ ds, token ∉ e.tokens) → token ∈ d.tokens →
        similarity c d.id (queryWeights c p query) = 1 := by
  intro d hd
  have hnonneg : ∀ q ∈ weightPairs c d.id (queryWeights c p query), 0 ≤ q.1 * q.2 :=
    fun q hq => product_nonneg h hfew hquery hsmoothing hq
  refine ⟨cosine_le_one _, ?_, similarity_eq_zero_iff h hfew hquery hsmoothing hd,
    similarity_eq_one_iff c d.id _, fun t n token hsingle ht hrare hmem =>
      similarity_of_single h hfew hquery hsmoothing hsingle ht hrare hd hmem⟩
  rw [similarity_eq]
  exact cosine_mem_unit hnonneg

theorem single_term_similarity :
    ∃ (ds : List Document) (c : Corpus ℝ) (query : TermVector),
      ds = [⟨7, "", ["1", "2"]⟩, ⟨3, "", ["2"]⟩] ∧ query.toList = [(0, 1)] ∧
      Corpus.build ds = .ok c ∧ (ds.flatMap Document.tokens).length < UInt32.size ∧
      IsQuery c.index query ∧ (Params.default : Params ℝ).smoothing ∈ Set.Icc 0 1 ∧
      similarity c 7 (queryWeights c .default query) = 1 ∧
      similarity c 3 (queryWeights c .default query) = 0 := by
  obtain ⟨ds, hds⟩ : ∃ ds : List Document,
      ds = [⟨7, "", ["1", "2"]⟩, ⟨3, "", ["2"]⟩] := ⟨_, rfl⟩
  obtain ⟨query, hsingle⟩ : ∃ query : TermVector, query.toList = [(0, 1)] :=
    ⟨Std.ExtTreeMap.empty.insert 0 1, rfl⟩
  have hfew : (ds.flatMap Document.tokens).length < UInt32.size := by rw [hds]; decide
  obtain ⟨c, hc⟩ : ∃ c : Corpus ℝ, Corpus.build ds = .ok c :=
    Corpus.exists_build (by rw [hds]; decide)
  have htoken : c.index.token? 0 = some "1" := by
    have hterms : c.index.terms.toList = ["1", "2"] := by
      rw [Corpus.terms_of_build hc, hds]
      decide
    rw [TermIndex.token?, ← Array.getElem?_toList, hterms]
    rfl
  have hterm : ∀ t ∈ query, t = 0 ∧ query.count t = 1 := by
    intro t ht
    have hmem := hsingle ▸ TermVector.mem_toList_iff.2 ⟨ht, rfl⟩
    simpa using hmem
  have hquery : IsQuery c.index query := by
    constructor
    · intro t ht
      rw [(hterm t ht).2]
      decide
    · intro t ht
      exact ⟨"1", (hterm t ht).1 ▸ htoken⟩
  have hsmoothing : (Params.default : Params ℝ).smoothing ∈ Set.Icc 0 1 := by
    rw [Params.default, Scalar.ofNat_real, Scalar.ofNat_real]
    norm_num
  have hexact := similarity_exact hc hfew hquery hsmoothing
  obtain ⟨-, -, -, -, hone⟩ := hexact ⟨7, "", ["1", "2"]⟩ (by rw [hds]; decide)
  obtain ⟨-, -, hzero, -, -⟩ := hexact ⟨3, "", ["2"]⟩ (by rw [hds]; decide)
  refine ⟨ds, c, query, hds, hsingle, hc, hfew, hquery, hsmoothing, ?_, hzero.2 ?_⟩
  · exact hone 0 1 "1" hsingle htoken (by rw [hds]; decide) (by decide)
  · intro t ht token hknown _
    rw [(hterm t ht).1, htoken] at hknown
    obtain rfl := Option.some.inj hknown
    decide

end Vector

end DocSearch
