import Mathlib.Data.List.MinMax
import DocSearch.Numeric.Binary64
import DocSearch.Proofs.Ascending
import DocSearch.Proofs.Index.Counts

/-!
# The most frequent term of a document

The highest count of a vector is computed once, when a document store is made
(`TermVector.maxCount`). The term that has it is looked for each time that it is asked for
(`TermVector.mostFrequent`). Both go through the vector in the order of the term ids; the search
also has to choose between terms with the same count, and keeps the first.

So what is found has the highest count, and no smaller term has the same
(`TermVector.of_mostFrequent_eq_some`). In a corpus that is built from documents this names the
token of the document that occurs most often, and of several the one that got its id first
(`Corpus.maxFrequency_exact`).
-/

namespace DocSearch

/-- Of two members of a strictly ascending list the smaller one comes first. -/
lemma Ascends.isLE_of_idxOf_le {α : Type} [DecidableEq α] {cmp : α → α → Ordering}
    [Std.ReflCmp cmp] {l : List α} (h : Ascends cmp l) {a b : α} (hb : b ∈ l)
    (hle : l.idxOf a ≤ l.idxOf b) : (cmp a b).isLE := by
  have hblt : l.idxOf b < l.length := List.idxOf_lt_length_of_mem hb
  have halt : l.idxOf a < l.length := hle.trans_lt hblt
  rcases hle.eq_or_lt with heq | hlt
  · obtain rfl : b = a := (List.idxOf_inj hb).1 heq.symm
    have hself : cmp b b = .eq := Std.ReflCmp.compare_self
    rw [hself]
    rfl
  · have hab := List.pairwise_iff_getElem.1 h _ _ halt hblt hlt
    rw [List.getElem_idxOf, List.getElem_idxOf] at hab
    rw [hab]
    rfl

/-! ## The search in a vector -/

namespace TermVector

variable {v : TermVector} {t : TermId} {n : UInt32}

/-- The search finds the first of the entries with the highest count. -/
lemma mostFrequent_eq_argmax (v : TermVector) :
    v.mostFrequent = v.toList.argmax fun p => p.2.toNat := by
  rw [mostFrequent, Std.ExtTreeMap.foldl_eq_foldl_toList, List.argmax]
  congr 1
  funext best p
  cases best with
  | none => rfl
  | some q =>
    show (if p.2 ≤ q.2 then some q else some p) = if q.2.toNat < p.2.toNat then some p else some q
    by_cases hle : p.2 ≤ q.2
    · rw [if_pos hle, if_neg (Nat.not_lt.2 (UInt32.le_iff_toNat_le.1 hle))]
    · rw [if_neg hle, if_pos (Nat.lt_of_not_le fun h => hle (UInt32.le_iff_toNat_le.2 h))]

/-- Nothing is found in the empty vector only. -/
lemma mostFrequent_eq_none_iff : v.mostFrequent = none ↔ v = ∅ := by
  rw [mostFrequent_eq_argmax, List.argmax_eq_none, Std.ExtTreeMap.toList_eq_nil_iff]

/-- What is found has the highest count, and no smaller term has the same. -/
theorem of_mostFrequent_eq_some (h : v.mostFrequent = some (t, n)) :
    v[t]? = some n ∧ v.maxCount = n ∧ ∀ s, v[s]? = some n → t ≤ s := by
  rw [mostFrequent_eq_argmax, List.argmax_eq_some_iff] at h
  obtain ⟨hmem, hhighest, hfirst⟩ := h
  have hn : v[t]? = some n := Std.ExtTreeMap.mem_toList_iff_getElem?_eq_some.1 hmem
  refine ⟨hn, ?_, fun s hs => ?_⟩
  · refine UInt32.toNat_inj.1 (Nat.le_antisymm ?_ ?_)
    · rw [toNat_maxCount, foldl_max_le_iff]
      exact ⟨Nat.zero_le _, hhighest⟩
    · rw [← (getElem?_eq_some_iff.1 hn).2]
      exact count_le_maxCount v t
  · have hascends : Ascends (compareOn Prod.fst) v.toList := Std.ExtTreeMap.ordered_keys_toList
    have hs' : (s, n) ∈ v.toList := Std.ExtTreeMap.mem_toList_iff_getElem?_eq_some.2 hs
    exact Std.isLE_compare.1 (hascends.isLE_of_idxOf_le hs' (hfirst _ hs' (Nat.le_refl _)))

end TermVector

/-! ## The search in a store -/

namespace DocumentStore

variable {ds : List Document} {vs : List TermVector} {s : DocumentStore} {x : TermIndex}
  {id : DocId}

/-- Nothing is found in a document without terms, nor under an unknown id. -/
lemma maxFrequency_of_empty (h : s.vector? id = none ∨ s.vector? id = some ∅) :
    s.maxFrequency x id = ("", 0) := by
  have hnone : (s.vector? id).bind TermVector.mostFrequent = none := by
    rcases h with h | h
    · rw [h, Option.bind_none]
    · rw [h, Option.bind_some, TermVector.mostFrequent_eq_none_iff]
  rw [maxFrequency, hnone]

lemma maxFrequency_of_some {t : TermId} {n : UInt32}
    (h : (s.vector? id).bind TermVector.mostFrequent = some (t, n)) :
    s.maxFrequency x id = ((x.token? t).getD "", n) := by
  rw [maxFrequency, h]

/-- The count that is found is the one that is kept. -/
theorem snd_maxFrequency (h : ofLists ds vs = .ok s) (x : TermIndex) (id : DocId) :
    (s.maxFrequency x id).2 = s.maxCount id := by
  rw [maxCount_eq h]
  cases hv : s.vector? id with
  | none =>
    rw [maxFrequency_of_empty (Or.inl hv)]
    rfl
  | some v =>
    cases hbest : v.mostFrequent with
    | none =>
      obtain rfl := TermVector.mostFrequent_eq_none_iff.1 hbest
      rw [maxFrequency_of_empty (Or.inr hv)]
      rfl
    | some p =>
      obtain ⟨t, n⟩ := p
      have hfound : (s.vector? id).bind TermVector.mostFrequent = some (t, n) := by
        rw [hv, Option.bind_some, hbest]
      rw [maxFrequency_of_some hfound]
      exact (TermVector.of_mostFrequent_eq_some hbest).2.1.symm

lemma vector?_eq_none_iff (h : ofLists ds vs = .ok s) (hvectors : ds.length = vs.length) :
    s.vector? id = none ↔ id ∉ s.ids := by
  rw [← exists_vector?_iff h hvectors, Option.eq_none_iff_forall_ne_some, not_exists]

/-- The highest counts that are kept are those that are found, and they are the highest. -/
structure FindsHighest (s : DocumentStore) : Prop where
  snd_maxFrequency : ∀ x id, (s.maxFrequency x id).2 = s.maxCount id
  frequency_le : ∀ t id, (s.frequency t id).toNat ≤ (s.maxCount id).toNat
  of_empty : ∀ x id, id ∉ s.ids ∨ s.vector? id = some ∅ →
    s.maxFrequency x id = ("", 0) ∧ s.maxCount id = 0

theorem findsHighest_of_ofLists (h : ofLists ds vs = .ok s) (hvectors : ds.length = vs.length) :
    s.FindsHighest where
  snd_maxFrequency := snd_maxFrequency h
  frequency_le := frequency_le_maxCount h
  of_empty := by
    intro x id hempty
    rw [← vector?_eq_none_iff h hvectors] at hempty
    have hfound : s.maxFrequency x id = ("", 0) := maxFrequency_of_empty hempty
    exact ⟨hfound, by rw [← snd_maxFrequency h x id, hfound]⟩

end DocumentStore

/-! ## The most frequent token -/

namespace TermIndex

variable {x : TermIndex} {tokens : List String} {t : TermId} {n : UInt32}

/-- The token occurs `n` times in the list, no token of the list occurs more often, and of those
that occur as often it has the smallest id. -/
structure IsMostFrequent (x : TermIndex) (tokens : List String) (token : String) (n : UInt32) :
    Prop where
  mem : token ∈ tokens
  toNat_eq : n.toNat = tokens.count token
  count_le : ∀ u ∈ tokens, tokens.count u ≤ tokens.count token
  first : ∃ t, x.termId? token = some t ∧ ∀ u ∈ tokens, tokens.count u = tokens.count token →
    ∀ s, x.termId? u = some s → t ≤ s

/-- Only the empty list has no known tokens to put into its bag. -/
lemma Knows.bagOfWords_eq_empty_iff (hknows : x.Knows tokens) :
    x.bagOfWords tokens = ∅ ↔ tokens = [] := by
  constructor
  · intro hempty
    refine List.eq_nil_iff_forall_not_mem.2 fun u hu => ?_
    obtain ⟨s, hs⟩ := hknows u hu
    have hmem : s ∈ x.bagOfWords tokens := mem_bagOfWords.2 ⟨u, hu, hs⟩
    rw [hempty] at hmem
    exact Std.ExtTreeMap.not_mem_empty hmem
  · rintro rfl
    rfl

/-- The most frequent term of a bag is that of the most frequent token of the list. -/
theorem Invertible.exists_isMostFrequent (hx : x.Invertible) (hknows : x.Knows tokens)
    (hfew : tokens.length < UInt32.size)
    (hbest : (x.bagOfWords tokens).mostFrequent = some (t, n)) :
    ∃ token, x.token? t = some token ∧ x.IsMostFrequent tokens token n := by
  obtain ⟨hn, hhighest, hfirst⟩ := TermVector.of_mostFrequent_eq_some hbest
  obtain ⟨token, htoken, ht, hcount⟩ := (hx.getElem?_bagOfWords_eq_some_iff hfew).1 hn
  refine ⟨token, ht, htoken, hcount, ?_, t, (hx token t).2 ht, ?_⟩
  · intro u hu
    obtain ⟨s, hs⟩ := hknows u hu
    rw [← hcount, ← hhighest, ← hx.toNat_count_bagOfWords hfew ((hx u s).1 hs)]
    exact TermVector.count_le_maxCount _ s
  · intro u hu hsame s hs
    refine hfirst s ((hx.getElem?_bagOfWords_eq_some_iff hfew).2 ?_)
    exact ⟨u, hu, (hx u s).1 hs, hcount.trans hsame.symm⟩

end TermIndex

namespace Corpus

variable {α : Type} [Scalar α] {ds : List Document} {c : Corpus α} {d : Document}
  (h : build ds = .ok c)

include h

/-- In a document that is not empty a most frequent token is found. -/
lemma exists_maxFrequency (hfew : (ds.flatMap Document.tokens).length < UInt32.size)
    (hd : d ∈ ds) (hne : d.tokens ≠ []) :
    ∃ token n, c.documents.maxFrequency c.index d.id = (token, n) ∧
      c.index.IsMostFrequent d.tokens token n ∧ c.tokenFrequency token d.id = n := by
  have hx := invertible_of_build h (Nat.le_of_lt hfew)
  have hknows := knows_of_build h d hd
  have hdfew := (length_tokens_le hd).trans_lt hfew
  cases hbest : (c.index.bagOfWords d.tokens).mostFrequent with
  | none =>
    rw [TermVector.mostFrequent_eq_none_iff, hknows.bagOfWords_eq_empty_iff] at hbest
    exact absurd hbest hne
  | some p =>
    obtain ⟨t, n⟩ := p
    obtain ⟨token, ht, htoken⟩ := hx.exists_isMostFrequent hknows hdfew hbest
    have hfound : (c.documents.vector? d.id).bind TermVector.mostFrequent = some (t, n) := by
      rw [vector?_of_build h hd, Option.bind_some, hbest]
    refine ⟨token, n, ?_, htoken, ?_⟩
    · rw [DocumentStore.maxFrequency_of_some hfound, ht, Option.getD_some]
    · rw [tokenFrequency, (hx token t).2 ht]
      exact UInt32.toNat_inj.1 ((toNat_frequency h hfew ht hd).trans htoken.toNat_eq.symm)

lemma findsHighest_of_build : c.documents.FindsHighest :=
  DocumentStore.findsHighest_of_ofLists (documents_of_build h) (by simp)

/-- Under the id of an empty document, or of none, nothing is found and zero is kept. -/
lemma maxFrequency_of_empty {id : DocId} (hempty : ∀ d ∈ ds, d.id = id → d.tokens = []) :
    c.documents.maxFrequency c.index id = ("", 0) ∧ c.documents.maxCount id = 0 := by
  refine (findsHighest_of_build h).of_empty c.index id ?_
  by_cases hid : id ∈ ds.map Document.id
  · obtain ⟨d, hd, rfl⟩ := List.mem_map.1 hid
    refine Or.inr ?_
    rw [vector?_of_build h hd, hempty d hd rfl]
    rfl
  · rw [ids_of_build h]
    exact Or.inl hid

omit h

/-- In all documents of a corpus the highest count is found together with the token that has it. -/
structure FindsMostFrequent (c : Corpus α) (ds : List Document) : Prop where
  highest : c.documents.FindsHighest
  token : ∀ d ∈ ds, d.tokens ≠ [] → ∃ token n,
    c.documents.maxFrequency c.index d.id = (token, n) ∧
      c.index.IsMostFrequent d.tokens token n ∧ c.tokenFrequency token d.id = n
  empty : ∀ id, (∀ d ∈ ds, d.id = id → d.tokens = []) →
    c.documents.maxFrequency c.index id = ("", 0) ∧ c.documents.maxCount id = 0

/-- **The highest count that is kept is the one that is found.** This is so in every store of
documents with distinct ids and as many vectors. In a corpus that is built from documents the token
that is found with it is the most frequent one of the document, and of several the one with the
smallest id. -/
theorem maxFrequency_exact :
    (∀ (ds : List Document) (vs : List TermVector), ds.length = vs.length →
      (ds.map Document.id).Nodup →
        ∃ s, DocumentStore.ofLists ds vs = .ok s ∧ s.FindsHighest) ∧
    ∀ (ds : List Document) (c : Corpus α), build ds = .ok c →
      (ds.flatMap Document.tokens).length < UInt32.size → c.FindsMostFrequent ds := by
  refine ⟨fun ds vs hvectors hids => ?_, fun ds c hc hfew => ?_⟩
  · obtain ⟨s, hs⟩ := DocumentStore.exists_ofLists hids vs
    exact ⟨s, hs, DocumentStore.findsHighest_of_ofLists hs hvectors⟩
  · exact ⟨findsHighest_of_build hc, fun d hd => exists_maxFrequency hc hfew hd,
      fun id => maxFrequency_of_empty hc⟩

theorem first_of_tied_tokens_found :
    (∃ s, DocumentStore.ofLists [⟨7, "", []⟩, ⟨3, "", []⟩] [(∅ : TermVector).bump 4, ∅] = .ok s ∧
      s.FindsHighest) ∧
    ∃ c : Corpus Binary64, build [⟨7, "", ["b", "a", "a", "b"]⟩, ⟨3, "", []⟩] = .ok c ∧
      c.FindsMostFrequent [⟨7, "", ["b", "a", "a", "b"]⟩, ⟨3, "", []⟩] ∧
      c.documents.maxFrequency c.index 7 = ("b", 2) := by
  refine ⟨(maxFrequency_exact (α := Binary64)).1 _ _ rfl (by decide), ?_⟩
  obtain ⟨c, hc⟩ : ∃ c : Corpus Binary64,
      build [⟨7, "", ["b", "a", "a", "b"]⟩, ⟨3, "", []⟩] = .ok c := exists_build (by decide)
  refine ⟨c, hc, maxFrequency_exact.2 _ c hc (by decide), ?_⟩
  have hfound : (DocumentStore.ofLists [⟨7, "", ["b", "a", "a", "b"]⟩, ⟨3, "", []⟩]
      (TermIndex.addDocuments {} [⟨7, "", ["b", "a", "a", "b"]⟩, ⟨3, "", []⟩]).2).map
        (fun s => s.maxFrequency
          (TermIndex.addDocuments {} [⟨7, "", ["b", "a", "a", "b"]⟩, ⟨3, "", []⟩]).1 7) =
      .ok ("b", 2) := by cbv
  rw [vectors_of_build hc, documents_of_build hc, ← index_of_build hc] at hfound
  exact Except.ok.inj hfound

end Corpus

end DocSearch
