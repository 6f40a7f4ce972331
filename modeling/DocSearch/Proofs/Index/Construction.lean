import DocSearch.Numeric.Binary64
import DocSearch.Proofs.Index.Counting
import DocSearch.Proofs.Index.Positions
import DocSearch.Proofs.Index.Vocabulary

/-!
# Corpora hold what their documents say

All that a corpus stores about its documents can be said of the documents alone (`build_exact`): the
list of terms, the document frequencies and the term vectors are those that one would write down by
looking at the tokens. Ids of terms and counts are words of 32 bits, which is enough for documents
with fewer than 2^32 tokens in all.
-/

namespace DocSearch

namespace Corpus

variable {α : Type} [Scalar α] {ds : List Document} {c : Corpus α}

lemma vectors_of_build (h : build ds = .ok c) :
    (TermIndex.addDocuments {} ds).2 = ds.map fun d => c.index.bagOfWords d.tokens := by
  rw [index_of_build h]
  exact TermIndex.addDocuments_vectors ds .refl

lemma documents_of_build (h : build ds = .ok c) :
    DocumentStore.ofLists ds (ds.map fun d => c.index.bagOfWords d.tokens) = .ok c.documents := by
  rw [← vectors_of_build h]
  obtain ⟨s, hs, rfl⟩ := map_eq_ok_iff.1 h
  exact hs

/-- The documents are listed in the order in which they were given. -/
lemma ids_of_build (h : build ds = .ok c) : c.documents.ids = ds.map Document.id :=
  DocumentStore.ids_of_ofLists (documents_of_build h)

/-- A document is found with the vector that the index gives for its tokens. -/
lemma vector?_of_build (h : build ds = .ok c) {d : Document} (hd : d ∈ ds) :
    c.documents.vector? d.id = some (c.index.bagOfWords d.tokens) :=
  DocumentStore.vector?_of_ofLists (documents_of_build h) hd

lemma of_build_eq_error {e : Error} (h : (build ds : Except Error (Corpus α)) = .error e) :
    ∃ d, RepeatsFirst ds d ∧ e = .duplicateDocument d.id :=
  DocumentStore.of_ofLists_eq_error (map_eq_error_iff.1 h)

/-- Building fails exactly if two documents share an id. -/
theorem exists_build_eq_error_iff :
    (∃ e, (build ds : Except Error (Corpus α)) = .error e) ↔ ¬ (ds.map Document.id).Nodup := by
  constructor
  · rintro ⟨e, he⟩
    obtain ⟨d, hd, -⟩ := of_build_eq_error he
    exact hd.not_nodup
  · intro hids
    cases h : (build ds : Except Error (Corpus α)) with
    | error e => exact ⟨e, rfl⟩
    | ok c => exact absurd (DocumentStore.nodup_of_ofLists (documents_of_build h)) hids

lemma length_tokens_le {d : Document} (hd : d ∈ ds) :
    d.tokens.length ≤ (ds.flatMap Document.tokens).length := by
  obtain ⟨before, behind, rfl⟩ := List.append_of_mem hd
  rw [List.flatMap_append, List.flatMap_cons, List.length_append, List.length_append]
  omega

/-- There are no more documents with a token than there are tokens. -/
lemma countP_mem_tokens_le (token : String) :
    ds.countP (fun d => decide (token ∈ d.tokens)) ≤ (ds.flatMap Document.tokens).length := by
  induction ds with
  | nil => exact Nat.le_refl _
  | cons d ds ih =>
    rw [List.countP_cons, List.flatMap_cons, List.length_append]
    split
    · next h =>
      have hpos := List.length_pos_of_mem (of_decide_eq_true h)
      omega
    · omega

/-- The document frequency of a term is the number of documents that contain it. -/
lemma frequency_of_build (h : build ds = .ok c)
    (hfew : (ds.flatMap Document.tokens).length < UInt32.size) {token : String} {t : TermId}
    (ht : c.index.token? t = some token) :
    (c.index.frequency t).toNat = ds.countP fun d => decide (token ∈ d.tokens) := by
  have hx := invertible_of_build h (Nat.le_of_lt hfew)
  have hid := (hx token t).2 ht
  have hfreq : c.index.frequency t = ((TermIndex.addDocuments {} ds).2.countP
      fun v => v.contains t).toUInt32 := by
    rw [index_of_build h, TermIndex.frequency_addDocuments ds TermIndex.aligned_empty]
    exact UInt32.zero_add _
  have hcount : (TermIndex.addDocuments {} ds).2.countP (fun v => v.contains t) =
      ds.countP fun d => decide (token ∈ d.tokens) := by
    rw [vectors_of_build h, List.countP_map]
    refine List.countP_congr fun d _ => ?_
    rw [Function.comp_apply, Std.ExtTreeMap.contains_iff_mem, hx.mem_bagOfWords_iff hid,
      decide_eq_true_iff]
  rw [hfreq, hcount]
  exact Nat.mod_eq_of_lt (Nat.lt_of_le_of_lt (countP_mem_tokens_le token) hfew)

lemma terms_of_build (h : build ds = .ok c) :
    c.index.terms.toList = (ds.flatMap Document.tokens).eraseDups := by
  rw [index_of_build h]
  exact TermIndex.terms_addDocuments ds TermIndex.listed_empty

lemma exists_mem_tokens_of_token? (h : build ds = .ok c) {token : String} {t : TermId}
    (ht : c.index.token? t = some token) : ∃ d ∈ ds, token ∈ d.tokens := by
  have hmem : token ∈ c.index.terms.toList :=
    Array.mem_toList_iff.2 (Array.mem_of_getElem? ht)
  rwa [terms_of_build h, List.mem_eraseDups, List.mem_flatMap] at hmem

/-! ## What a corpus holds -/

/-- The corpus holds what the documents say. -/
structure Describes (c : Corpus α) (ds : List Document) : Prop where
  size : c.size = ds.length
  terms : c.index.terms.toList = (ds.flatMap Document.tokens).eraseDups
  inverse : ∀ token t, c.index.termId? token = some t ↔ c.index.token? t = some token
  size_frequencies : c.index.frequencies.size = c.index.terms.size
  frequency : ∀ token t, c.index.token? t = some token →
    (c.index.frequency t).toNat = ds.countP (fun d => decide (token ∈ d.tokens)) ∧
      1 ≤ (c.index.frequency t).toNat ∧ (c.index.frequency t).toNat ≤ ds.length
  document : ∀ d ∈ ds, c.document? d.id = some d
  vector : ∀ d ∈ ds, ∃ v, c.documents.vector? d.id = some v ∧ c.index.Counts d.tokens v

lemma frequency_pos_and_le (h : build ds = .ok c)
    (hfew : (ds.flatMap Document.tokens).length < UInt32.size) {token : String} {t : TermId}
    (ht : c.index.token? t = some token) :
    1 ≤ (c.index.frequency t).toNat ∧ (c.index.frequency t).toNat ≤ ds.length := by
  rw [frequency_of_build h hfew ht]
  obtain ⟨d, hd, htoken⟩ := exists_mem_tokens_of_token? h ht
  exact ⟨List.countP_pos_iff.2 ⟨d, hd, decide_eq_true htoken⟩, List.countP_le_length⟩

theorem describes_of_build (h : build ds = .ok c)
    (hfew : (ds.flatMap Document.tokens).length < UInt32.size) : c.Describes ds where
  size := DocumentStore.size_of_ofLists (documents_of_build h)
  terms := terms_of_build h
  inverse := invertible_of_build h (Nat.le_of_lt hfew)
  size_frequencies := by
    rw [index_of_build h]
    exact ((TermIndex.grows_addDocuments ds {}).aligned TermIndex.aligned_empty).size_frequencies
  frequency := fun _ _ ht => ⟨frequency_of_build h hfew ht, frequency_pos_and_le h hfew ht⟩
  document := fun _ hd => DocumentStore.get?_of_ofLists (documents_of_build h) hd
  vector := fun d hd =>
    ⟨_, vector?_of_build h hd,
      (invertible_of_build h (Nat.le_of_lt hfew)).counts_bagOfWords (knows_of_build h d hd)
        (Nat.lt_of_le_of_lt (length_tokens_le hd) hfew)⟩

/-- **Building a corpus is exact.** It fails exactly if two documents share an id, with the id of
the first document that repeats one; otherwise the corpus holds what the documents say. -/
theorem build_exact (hfew : (ds.flatMap Document.tokens).length < UInt32.size) :
    ((∃ e, (build ds : Except Error (Corpus α)) = .error e) ↔ ¬ (ds.map Document.id).Nodup) ∧
      (∀ e, (build ds : Except Error (Corpus α)) = .error e →
        ∃ d, RepeatsFirst ds d ∧ e = .duplicateDocument d.id) ∧
      ∀ c : Corpus α, build ds = .ok c → c.Describes ds :=
  ⟨exists_build_eq_error_iff, fun _ he => of_build_eq_error he,
    fun _ hc => describes_of_build hc hfew⟩

theorem three_documents_build_exact :
    (([⟨7, "", ["b", "a", "b"]⟩, ⟨3, "", []⟩, ⟨9, "", ["c", "a"]⟩] : List Document).flatMap
        Document.tokens).length < UInt32.size ∧
      ∃ c : Corpus Binary64,
        build [⟨7, "", ["b", "a", "b"]⟩, ⟨3, "", []⟩, ⟨9, "", ["c", "a"]⟩] = .ok c ∧
          c.Describes [⟨7, "", ["b", "a", "b"]⟩, ⟨3, "", []⟩, ⟨9, "", ["c", "a"]⟩] ∧
          c.index.terms.toList = ["b", "a", "c"] := by
  have hfew : (([⟨7, "", ["b", "a", "b"]⟩, ⟨3, "", []⟩, ⟨9, "", ["c", "a"]⟩] :
      List Document).flatMap Document.tokens).length < UInt32.size := by decide
  obtain ⟨c, hc⟩ : ∃ c : Corpus Binary64,
      build [⟨7, "", ["b", "a", "b"]⟩, ⟨3, "", []⟩, ⟨9, "", ["c", "a"]⟩] = .ok c :=
    exists_build (by decide)
  have hdescribes := (build_exact hfew).2.2 c hc
  exact ⟨hfew, c, hc, hdescribes, hdescribes.terms⟩

end Corpus

end DocSearch
