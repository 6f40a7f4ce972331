import DocSearch.Proofs.Numeric.Exact
import DocSearch.Proofs.Index.Counts

/-!
# Statistics of a corpus

What the ranking models compute with, read over the real numbers: the frequency of a term in a
document relative to the most frequent one (`Corpus.tf`), the rarity of a term in the corpus
(`Corpus.idf`), and the latter relative to the rarest term (`Corpus.normalizedIdf`). None of them is
negative, and the relative ones are at most one.

They vanish just where the documents say so. A term frequency is positive exactly if the document
contains the token (`Corpus.tf_pos_iff`), a rarity exactly if some document does not
(`Corpus.idf_pos_iff`). They are one where they should be: the most frequent terms of a document
have term frequency one, and the terms in the fewest documents have relative rarity one.

All of this (`Corpus.lawfulStatistics_of_build`) is for corpora that are built from documents with
fewer tokens than there are term ids; restored ones may hold anything.
-/

namespace DocSearch

/-! ## Statistics over the real numbers -/

namespace Corpus

section Formulas

variable (c : Corpus ℝ) (t : TermId) (id : DocId)

/-- A document without a highest count has no counts at all, so it needs no case of its own. -/
lemma tf_eq : c.tf t id = (c.documents.frequency t id).toNat / (c.documents.maxCount id).toNat := by
  rw [tf]
  split
  · next h => simp [h]
  · rfl

lemma idf_of_eq_zero (h : c.index.frequency t = 0) : c.idf t = 0 := by
  rw [idf, idfOf, if_pos h, Scalar.zero_real]

lemma idf_of_ne_zero (h : c.index.frequency t ≠ 0) :
    c.idf t = Real.logb 2 (c.size / (c.index.frequency t).toNat) := by
  rw [idf, idfOf, if_neg h, Scalar.log2_real, Scalar.ofNat_real, Scalar.ofNat_real]

/-- If the largest rarity is zero, the quotient is zero as well. -/
lemma normalizedIdf_eq : c.normalizedIdf t = c.idf t / c.maxIdf := by
  rw [normalizedIdf]
  split
  · next h => rw [Scalar.isZero_real.1 h, div_zero, Scalar.zero_real]
  · rfl

end Formulas

variable {ds : List Document} {c : Corpus ℝ} {token : String} {t : TermId} {id : DocId}

/-! ### Term frequencies -/

section TermFrequency

variable (h : build ds = .ok c)

include h

theorem tf_mem_unit (t : TermId) (id : DocId) : c.tf t id ∈ Set.Icc 0 1 := by
  rw [tf_eq]
  have hle := frequency_le_maxCount h t id
  refine ⟨by positivity, div_le_one_of_le₀ ?_ (Nat.cast_nonneg _)⟩
  exact_mod_cast hle

lemma tf_pos_iff_frequency : 0 < c.tf t id ↔ 0 < (c.documents.frequency t id).toNat := by
  have hle := frequency_le_maxCount h t id
  rw [tf_eq]
  constructor
  · intro hpos
    by_contra hzero
    rw [Nat.eq_zero_of_not_pos hzero, Nat.cast_zero, zero_div] at hpos
    exact lt_irrefl 0 hpos
  · intro hpos
    have hmax : 0 < (c.documents.maxCount id).toNat := hpos.trans_le hle
    positivity

variable (hfew : (ds.flatMap Document.tokens).length < UInt32.size)

include hfew

/-- A term has a frequency in the documents that contain its token and in no others. -/
theorem tf_pos_iff (ht : c.index.token? t = some token) {d : Document} (hd : d ∈ ds) :
    0 < c.tf t d.id ↔ token ∈ d.tokens := by
  rw [tf_pos_iff_frequency h, toNat_frequency h hfew ht hd, List.count_pos_iff]

/-- The most frequent terms of a document are measured against themselves. -/
theorem exists_tf_eq_one_iff {d : Document} (hd : d ∈ ds) :
    (∃ token t, c.index.token? t = some token ∧ c.tf t d.id = 1) ↔ d.tokens ≠ [] := by
  constructor
  · rintro ⟨token, t, ht, hone⟩
    have hpos : 0 < c.tf t d.id := by rw [hone]; exact one_pos
    exact List.ne_nil_of_mem ((tf_pos_iff h hfew ht hd).1 hpos)
  · intro hne
    have hnonempty : d.tokens.toFinset.Nonempty := (List.toFinset_nonempty_iff _).2 hne
    obtain ⟨token, htoken, hhighest⟩ := Finset.exists_mem_eq_sup _ hnonempty d.tokens.count
    have hmem : token ∈ d.tokens := List.mem_toFinset.1 htoken
    obtain ⟨t, hid⟩ := knows_of_build h d hd token hmem
    have ht := (invertible_of_build h (Nat.le_of_lt hfew) token t).1 hid
    refine ⟨token, t, ht, ?_⟩
    have hcount : (d.tokens.count token : ℝ) ≠ 0 :=
      Nat.cast_ne_zero.2 (List.count_pos_iff.2 hmem).ne'
    rw [tf_eq, toNat_frequency h hfew ht hd, toNat_maxCount h hfew hd, hhighest, div_self hcount]

end TermFrequency

/-! ### Rarities -/

section Rarity

variable (h : build ds = .ok c) (hfew : (ds.flatMap Document.tokens).length < UInt32.size)

include h hfew

/-- A document frequency that is not zero is that of a term. -/
lemma exists_token?_of_frequency (hne : c.index.frequency t ≠ 0) :
    ∃ token, c.index.token? t = some token := by
  have hsize := (describes_of_build h hfew).size_frequencies
  by_contra hnone
  -- frequencies and terms are kept side by side, so a frequency without a term is out of range
  have hterm : ¬ t.toNat < c.index.terms.size := fun hlt =>
    hnone ⟨_, Array.getElem?_eq_getElem hlt⟩
  refine hne ?_
  rw [TermIndex.frequency, Array.getElem?_eq_none (by omega)]
  rfl

/-- Some document contains the token of a term. -/
lemma frequency_cast_pos (ht : c.index.token? t = some token) :
    (0 : ℝ) < (c.index.frequency t).toNat := by
  obtain ⟨-, hpos, -⟩ := (describes_of_build h hfew).frequency token t ht
  exact_mod_cast hpos

lemma idf_of_token? (ht : c.index.token? t = some token) :
    c.idf t = Real.logb 2 (c.size / (c.index.frequency t).toNat) := by
  refine idf_of_ne_zero c t fun hzero => ?_
  have hpos := frequency_cast_pos h hfew ht
  rw [hzero] at hpos
  exact absurd hpos (by simp)

/-- The quotient whose logarithm is the rarity of a term is at least one, and it is one if all
documents contain the token. -/
lemma one_le_quotient (ht : c.index.token? t = some token) :
    (1 : ℝ) ≤ c.size / (c.index.frequency t).toNat ∧
      (1 < (c.size / (c.index.frequency t).toNat : ℝ) ↔ ∃ d ∈ ds, token ∉ d.tokens) := by
  have hdescribes := describes_of_build h hfew
  obtain ⟨hcount, -, hle⟩ := hdescribes.frequency token t ht
  have hpos := frequency_cast_pos h hfew ht
  rw [one_le_div hpos, one_lt_div hpos, Nat.cast_le, Nat.cast_lt, hdescribes.size]
  refine ⟨hle, ?_⟩
  rw [hcount, List.countP_lt_length_iff]
  simp only [decide_eq_false_iff_not]

theorem idf_nonneg (t : TermId) : 0 ≤ c.idf t := by
  by_cases hzero : c.index.frequency t = 0
  · rw [idf_of_eq_zero c t hzero]
  · obtain ⟨token, ht⟩ := exists_token?_of_frequency h hfew hzero
    rw [idf_of_ne_zero c t hzero]
    exact Real.logb_nonneg one_lt_two (one_le_quotient h hfew ht).1

/-- A term is rare to some degree exactly if not all documents contain its token. -/
theorem idf_pos_iff (ht : c.index.token? t = some token) :
    0 < c.idf t ↔ ∃ d ∈ ds, token ∉ d.tokens := by
  obtain ⟨hone, hlt⟩ := one_le_quotient h hfew ht
  rw [idf_of_token? h hfew ht, ← hlt]
  exact Real.logb_pos_iff one_lt_two (by linarith)

/-- A term is not rare at all exactly if all documents contain its token. -/
theorem idf_eq_zero_iff (ht : c.index.token? t = some token) :
    c.idf t = 0 ↔ ∀ d ∈ ds, token ∈ d.tokens := by
  rw [← not_iff_not, ← ne_eq, ← (idf_nonneg h hfew t).lt_iff_ne', idf_pos_iff h hfew ht]
  simp only [not_forall, exists_prop]

/-- The fewer documents contain a term, the rarer it is. -/
theorem idf_lt_idf_iff {token' : String} {t' : TermId} (ht : c.index.token? t = some token)
    (ht' : c.index.token? t' = some token') :
    c.idf t' < c.idf t ↔ c.index.frequency t < c.index.frequency t' := by
  have hpos : (0 : ℝ) < (c.index.frequency t).toNat := frequency_cast_pos h hfew ht
  have hpos' : (0 : ℝ) < (c.index.frequency t').toNat := frequency_cast_pos h hfew ht'
  have hsize : (0 : ℝ) < c.size :=
    hpos.trans_le ((one_le_div hpos).1 (one_le_quotient h hfew ht).1)
  rw [idf_of_token? h hfew ht, idf_of_token? h hfew ht',
    Real.logb_lt_logb_iff one_lt_two (div_pos hsize hpos') (div_pos hsize hpos),
    div_lt_div_iff_of_pos_left hsize hpos' hpos, Nat.cast_lt, UInt32.lt_iff_toNat_lt]

end Rarity

/-! ### Relative rarities -/

section RelativeRarity

variable (h : build ds = .ok c) (hfew : (ds.flatMap Document.tokens).length < UInt32.size)

include h hfew

lemma mem_terms_iff :
    token ∈ c.index.terms.toList ↔ ∃ t, c.index.token? t = some token := by
  have hx := invertible_of_build h (Nat.le_of_lt hfew)
  rw [terms_of_build h, List.mem_eraseDups, List.mem_flatMap, ← exists_termId?_iff h hfew]
  exact exists_congr (hx token)

/-- The largest rarity is the least bound of zero and the rarities of all terms. -/
lemma maxIdf_le_iff {b : ℝ} :
    c.maxIdf ≤ b ↔ 0 ≤ b ∧ ∀ token t, c.index.token? t = some token → c.idf t ≤ b := by
  rw [maxIdf_eq_rarities h hfew, List.foldl_map]
  simp only [Scalar.max_real, Scalar.zero_real, foldl_max_le_iff, mem_terms_iff h hfew]
  refine and_congr_right fun _ => ⟨fun hle token t ht => ?_, ?_⟩
  · rw [idf_eq_rarity h hfew ht]
    exact hle token ⟨t, ht⟩
  · rintro hle token ⟨t, ht⟩
    rw [← idf_eq_rarity h hfew ht]
    exact hle token t ht

lemma maxIdf_nonneg : 0 ≤ c.maxIdf :=
  ((maxIdf_le_iff h hfew).1 le_rfl).1

/-- No term is rarer than the largest rarity says. -/
lemma idf_le_maxIdf (ht : c.index.token? t = some token) : c.idf t ≤ c.maxIdf :=
  ((maxIdf_le_iff h hfew).1 le_rfl).2 token t ht

/-- There is no rarity at all exactly if all documents have all terms. -/
theorem maxIdf_eq_zero_iff :
    c.maxIdf = 0 ↔ ∀ token t, c.index.token? t = some token → ∀ d ∈ ds, token ∈ d.tokens := by
  rw [← (maxIdf_nonneg h hfew).ge_iff_eq', maxIdf_le_iff h hfew, and_iff_right le_rfl]
  refine forall_congr' fun token => forall_congr' fun t => forall_congr' fun ht => ?_
  rw [(idf_nonneg h hfew t).ge_iff_eq', idf_eq_zero_iff h hfew ht]

theorem normalizedIdf_mem_unit (ht : c.index.token? t = some token) :
    c.normalizedIdf t ∈ Set.Icc 0 1 := by
  rw [normalizedIdf_eq]
  exact ⟨div_nonneg (idf_nonneg h hfew t) (maxIdf_nonneg h hfew),
    div_le_one_of_le₀ (idf_le_maxIdf h hfew ht) (maxIdf_nonneg h hfew)⟩

theorem normalizedIdf_pos_iff (ht : c.index.token? t = some token) :
    0 < c.normalizedIdf t ↔ ∃ d ∈ ds, token ∉ d.tokens := by
  rw [← idf_pos_iff h hfew ht, normalizedIdf_eq]
  constructor
  · intro hpos
    refine lt_of_le_of_ne (idf_nonneg h hfew t) fun hzero => ?_
    rw [← hzero, zero_div] at hpos
    exact lt_irrefl 0 hpos
  · intro hpos
    exact div_pos hpos (hpos.trans_le (idf_le_maxIdf h hfew ht))

/-- Unless no term is rare, those in the fewest documents are measured against themselves. -/
theorem normalizedIdf_eq_one_iff (hrare : c.maxIdf ≠ 0) (ht : c.index.token? t = some token) :
    c.normalizedIdf t = 1 ↔ ∀ token' t', c.index.token? t' = some token' →
      c.index.frequency t ≤ c.index.frequency t' := by
  rw [normalizedIdf_eq, div_eq_one_iff_eq hrare, ← (idf_le_maxIdf h hfew ht).ge_iff_eq,
    maxIdf_le_iff h hfew, and_iff_right (idf_nonneg h hfew t)]
  refine forall_congr' fun token' => forall_congr' fun t' => forall_congr' fun ht' => ?_
  rw [← not_lt, idf_lt_idf_iff h hfew ht' ht, UInt32.not_lt]

end RelativeRarity

/-! ### All laws -/

/-- What the statistics of a corpus say of the documents that it is built from. -/
structure LawfulStatistics (c : Corpus ℝ) (ds : List Document) : Prop where
  tf_mem_unit : ∀ t id, c.tf t id ∈ Set.Icc 0 1
  tf_pos_iff : ∀ token t, c.index.token? t = some token → ∀ d ∈ ds,
    (0 < c.tf t d.id ↔ token ∈ d.tokens)
  exists_tf_eq_one_iff : ∀ d ∈ ds,
    ((∃ token t, c.index.token? t = some token ∧ c.tf t d.id = 1) ↔ d.tokens ≠ [])
  idf_nonneg : ∀ t, 0 ≤ c.idf t
  idf_eq_zero_iff : ∀ token t, c.index.token? t = some token →
    (c.idf t = 0 ↔ ∀ d ∈ ds, token ∈ d.tokens)
  idf_lt_idf_iff : ∀ token t token' t', c.index.token? t = some token →
    c.index.token? t' = some token' →
      (c.idf t' < c.idf t ↔ c.index.frequency t < c.index.frequency t')
  maxIdf_eq_zero_iff : c.maxIdf = 0 ↔
    ∀ token t, c.index.token? t = some token → ∀ d ∈ ds, token ∈ d.tokens
  normalizedIdf_mem_unit : ∀ token t, c.index.token? t = some token →
    c.normalizedIdf t ∈ Set.Icc 0 1
  normalizedIdf_eq_one_iff : c.maxIdf ≠ 0 → ∀ token t, c.index.token? t = some token →
    (c.normalizedIdf t = 1 ↔ ∀ token' t', c.index.token? t' = some token' →
      c.index.frequency t ≤ c.index.frequency t')

/-- **The statistics of a corpus that is built from documents are lawful.** -/
theorem lawfulStatistics_of_build (h : build ds = .ok c)
    (hfew : (ds.flatMap Document.tokens).length < UInt32.size) : c.LawfulStatistics ds where
  tf_mem_unit := Corpus.tf_mem_unit h
  tf_pos_iff := fun _ _ ht _ hd => Corpus.tf_pos_iff h hfew ht hd
  exists_tf_eq_one_iff := fun _ hd => Corpus.exists_tf_eq_one_iff h hfew hd
  idf_nonneg := Corpus.idf_nonneg h hfew
  idf_eq_zero_iff := fun _ _ ht => Corpus.idf_eq_zero_iff h hfew ht
  idf_lt_idf_iff := fun _ _ _ _ ht ht' => Corpus.idf_lt_idf_iff h hfew ht ht'
  maxIdf_eq_zero_iff := Corpus.maxIdf_eq_zero_iff h hfew
  normalizedIdf_mem_unit := fun _ _ ht => Corpus.normalizedIdf_mem_unit h hfew ht
  normalizedIdf_eq_one_iff := fun hrare _ _ ht => Corpus.normalizedIdf_eq_one_iff h hfew hrare ht

theorem three_documents_lawful :
    (([⟨7, "", ["b", "a", "b"]⟩, ⟨3, "", []⟩, ⟨9, "", ["c", "a"]⟩] : List Document).flatMap
        Document.tokens).length < UInt32.size ∧
      ∃ c : Corpus ℝ,
        build [⟨7, "", ["b", "a", "b"]⟩, ⟨3, "", []⟩, ⟨9, "", ["c", "a"]⟩] = .ok c ∧
          c.LawfulStatistics [⟨7, "", ["b", "a", "b"]⟩, ⟨3, "", []⟩, ⟨9, "", ["c", "a"]⟩] ∧
          c.maxIdf ≠ 0 := by
  have hfew : (([⟨7, "", ["b", "a", "b"]⟩, ⟨3, "", []⟩, ⟨9, "", ["c", "a"]⟩] :
      List Document).flatMap Document.tokens).length < UInt32.size := by decide
  obtain ⟨c, hc⟩ : ∃ c : Corpus ℝ,
      build [⟨7, "", ["b", "a", "b"]⟩, ⟨3, "", []⟩, ⟨9, "", ["c", "a"]⟩] = .ok c :=
    exists_build (by decide)
  have hlawful := lawfulStatistics_of_build hc hfew
  refine ⟨hfew, c, hc, hlawful, fun hzero => ?_⟩
  -- the second document does not contain "b", so "b" is rare to some degree
  have hterm : "b" ∈ c.index.terms.toList := by
    rw [terms_of_build hc]
    decide
  obtain ⟨t, ht⟩ := (mem_terms_iff hc hfew).1 hterm
  have hmem := hlawful.maxIdf_eq_zero_iff.1 hzero "b" t ht ⟨3, "", []⟩ (by simp)
  exact absurd hmem List.not_mem_nil

end Corpus

end DocSearch
