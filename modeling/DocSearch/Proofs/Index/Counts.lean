import Mathlib.Data.Finset.Lattice.Fold
import Mathlib.Order.Lattice.Nat
import Mathlib.Order.MinMax
import DocSearch.Proofs.Index.Construction

/-!
# Counts of a built corpus

How often a term occurs in a document of a corpus, how often the most frequent term of the document
does, and how rare a term is can be told from the tokens of the documents alone
(`Corpus.toNat_frequency`, `Corpus.toNat_maxCount`, `Corpus.idf_eq_rarity`). Ids of terms decide
only in which order the rarities are gone through to find the largest one
(`Corpus.maxIdf_eq_rarities`).
-/

namespace DocSearch

section Lists

variable {ι κ : Type} [LinearOrder κ] {f : ι → κ} {l : List ι} {a b : κ}

lemma foldl_max_le_iff :
    l.foldl (fun m i => max m (f i)) a ≤ b ↔ a ≤ b ∧ ∀ i ∈ l, f i ≤ b := by
  induction l generalizing a with
  | nil => simp
  | cons i l ih => rw [List.foldl_cons, ih, max_le_iff, List.forall_mem_cons, and_assoc]

lemma le_foldl_max {i : ι} (hi : i ∈ l) : f i ≤ l.foldl (fun m i => max m (f i)) a :=
  (foldl_max_le_iff.1 (le_refl (l.foldl (fun m i => max m (f i)) a))).2 i hi

end Lists

/-! ## Highest counts -/

namespace TermVector

lemma toNat_maxCount (v : TermVector) :
    v.maxCount.toNat = v.toList.foldl (fun m p => max m p.2.toNat) 0 := by
  rw [maxCount, Std.ExtTreeMap.foldl_eq_foldl_toList]
  exact (List.foldl_hom UInt32.toNat fun m p => (UInt32.toNat_max m p.2).symm).symm

/-- No term of a vector occurs more often than the highest count says. -/
theorem count_le_maxCount (v : TermVector) (t : TermId) :
    (v.count t).toNat ≤ v.maxCount.toNat := by
  rcases hn : v[t]? with _ | n
  · have hzero : v.count t = 0 := by rw [count, Std.ExtTreeMap.getD_eq_getD_getElem?, hn]; rfl
    rw [hzero]
    exact Nat.zero_le _
  · have hcount : v.count t = n := (getElem?_eq_some_iff.1 hn).2
    have hmem : (t, n) ∈ v.toList := Std.ExtTreeMap.mem_toList_iff_getElem?_eq_some.2 hn
    rw [hcount, toNat_maxCount]
    exact le_foldl_max (f := fun p : TermId × UInt32 => p.2.toNat) hmem

end TermVector

namespace TermIndex

variable {x : TermIndex} {tokens : List String} {token : String} {t : TermId}

/-- The bag of a list of tokens counts how often each of them occurs. -/
lemma Invertible.toNat_count_bagOfWords (hx : x.Invertible) (hfew : tokens.length < UInt32.size)
    (ht : x.token? t = some token) :
    ((x.bagOfWords tokens).count t).toNat = tokens.count token := by
  rw [bagOfWords, TermVector.count_foldl_bump, TermVector.count_empty,
    hx.count_filterMap ((hx token t).2 ht), UInt32.zero_add]
  -- no list has so many tokens that a count of them wraps around
  exact Nat.mod_eq_of_lt (List.count_le_length.trans_lt hfew)

/-- The highest count in the bag of a list is that of the most frequent token. -/
lemma Invertible.toNat_maxCount_bagOfWords (hx : x.Invertible) (hknown : x.Knows tokens)
    (hfew : tokens.length < UInt32.size) :
    (x.bagOfWords tokens).maxCount.toNat = tokens.toFinset.sup tokens.count := by
  refine eq_of_forall_ge_iff fun b => ?_
  rw [Finset.sup_le_iff]
  constructor
  · intro hle token htoken
    obtain ⟨t, ht⟩ := hknown token (List.mem_toFinset.1 htoken)
    rw [← hx.toNat_count_bagOfWords hfew ((hx token t).1 ht)]
    exact (TermVector.count_le_maxCount _ t).trans hle
  · intro hle
    rw [TermVector.toNat_maxCount, foldl_max_le_iff]
    refine ⟨Nat.zero_le b, fun p hp => ?_⟩
    obtain ⟨token, htoken, -, hcount⟩ := (hx.getElem?_bagOfWords_eq_some_iff hfew).1
      (Std.ExtTreeMap.mem_toList_iff_getElem?_eq_some.1 hp)
    exact hcount ▸ hle token (List.mem_toFinset.2 htoken)

end TermIndex

namespace DocumentStore

variable {ds : List Document} {vs : List TermVector} {s : DocumentStore}

/-- The highest count kept for a document is that of its vector. -/
lemma maxCount_eq (h : ofLists ds vs = .ok s) (id : DocId) :
    s.maxCount id = ((s.vector? id).map TermVector.maxCount).getD 0 := by
  obtain ⟨table, -, rfl⟩ := map_eq_ok_iff.1 h
  simp only [vector?, maxCount, List.getElem?_toArray, List.getElem?_map]
  cases table[id]? <;> rfl

/-- No term of a document occurs more often than the highest count kept for the document. -/
theorem frequency_le_maxCount (h : ofLists ds vs = .ok s) (t : TermId) (id : DocId) :
    (s.frequency t id).toNat ≤ (s.maxCount id).toNat := by
  rw [frequency, maxCount_eq h]
  cases s.vector? id with
  | none => exact Nat.le_refl _
  | some v => exact v.count_le_maxCount t

end DocumentStore

/-- How rare a token is among documents. -/
def rarity {α : Type} [Scalar α] (ds : List Document) (token : String) : α :=
  Corpus.idfOf ds.length (ds.countP fun d => decide (token ∈ d.tokens)).toUInt32

namespace Corpus

variable {α : Type} [Scalar α] {ds : List Document} {c : Corpus α} {token : String} {t : TermId}
  (h : build ds = .ok c)

include h

lemma frequency_le_maxCount (t : TermId) (id : DocId) :
    (c.documents.frequency t id).toNat ≤ (c.documents.maxCount id).toNat :=
  DocumentStore.frequency_le_maxCount (documents_of_build h) t id

/-- The list of terms has no repetitions. -/
lemma nodup_terms : c.index.terms.toList.Nodup := by
  rw [index_of_build h]
  exact ((TermIndex.grows_addDocuments ds {}).listed TermIndex.listed_empty).nodup

lemma maxIdf_eq_foldl : c.maxIdf =
    (List.range c.index.size).foldl (fun m k => Scalar.max m (c.idf k.toUInt32)) Scalar.zero := by
  obtain ⟨s, -, rfl⟩ := map_eq_ok_iff.1 h
  rfl

variable (hfew : (ds.flatMap Document.tokens).length < UInt32.size)

include hfew

/-- The terms of a corpus are the tokens of its documents. -/
lemma exists_termId?_iff :
    (∃ t, c.index.termId? token = some t) ↔ ∃ d ∈ ds, token ∈ d.tokens := by
  constructor
  · rintro ⟨t, ht⟩
    exact exists_mem_tokens_of_token? h ((invertible_of_build h (Nat.le_of_lt hfew) token t).1 ht)
  · rintro ⟨d, hd, htoken⟩
    exact knows_of_build h d hd token htoken

/-! ## Counts in a document -/

/-- The count of a term in a document is the number of times that the token occurs there. -/
lemma toNat_frequency (ht : c.index.token? t = some token) {d : Document} (hd : d ∈ ds) :
    (c.documents.frequency t d.id).toNat = d.tokens.count token := by
  rw [DocumentStore.frequency, vector?_of_build h hd]
  exact (invertible_of_build h (Nat.le_of_lt hfew)).toNat_count_bagOfWords
    ((length_tokens_le hd).trans_lt hfew) ht

/-- The highest count in a document is that of its most frequent token. -/
lemma toNat_maxCount {d : Document} (hd : d ∈ ds) :
    (c.documents.maxCount d.id).toNat = d.tokens.toFinset.sup d.tokens.count := by
  rw [DocumentStore.maxCount_eq (documents_of_build h), vector?_of_build h hd]
  exact (invertible_of_build h (Nat.le_of_lt hfew)).toNat_maxCount_bagOfWords
    (knows_of_build h d hd) ((length_tokens_le hd).trans_lt hfew)

/-! ## Rarities -/

lemma idf_eq_rarity (ht : c.index.token? t = some token) : c.idf t = rarity ds token := by
  have hsize : c.size = ds.length := DocumentStore.size_of_ofLists (documents_of_build h)
  rw [idf, rarity, hsize, ← frequency_of_build h hfew ht, Nat.toUInt32_eq, UInt32.ofNat_toNat]

lemma map_idf_range :
    (List.range c.index.size).map (fun k => c.idf k.toUInt32) =
      c.index.terms.toList.map (rarity ds) := by
  refine List.ext_getElem (by simp [TermIndex.size]) fun k hk hk' => ?_
  simp only [List.getElem_map, List.getElem_range, Array.getElem_toList]
  have hlt : k < c.index.size := by simpa using hk
  have hid : k.toUInt32.toNat = k :=
    Nat.mod_eq_of_lt (hlt.trans_le (size_index_le h) |>.trans hfew)
  refine idf_eq_rarity h hfew ?_
  rw [TermIndex.token?, hid]
  exact Array.getElem?_eq_getElem hlt

/-- The largest rarity is found by going through the terms in the order of their ids. -/
lemma maxIdf_eq_rarities :
    c.maxIdf = (c.index.terms.toList.map (rarity ds)).foldl Scalar.max Scalar.zero := by
  rw [maxIdf_eq_foldl h, ← map_idf_range h hfew, List.foldl_map]

end Corpus

end DocSearch
