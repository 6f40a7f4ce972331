import Mathlib.Data.List.Perm.Basic
import DocSearch.Numeric.Binary64
import DocSearch.Proofs.Index.Construction

/-!
# Bags of words

A document is counted when it is added to the index, against a dictionary that does not have all
terms yet and gets some of them from this very document. A query is counted against the finished
dictionary, which stays as it is. Both come to the same: counting the tokens of a document once
more, however many documents were added behind it, gives the vector that the document got then
(`Corpus.addDocument_of_build`).

The bag of any list of tokens says how often the terms of the dictionary occur in it, and nothing of
other tokens or of the order of the list (`Corpus.counts_alike`).
-/

namespace DocSearch

/-! ## The order of the tokens -/

namespace TermVector

/-- Two terms may be counted in either order. -/
instance : RightCommutative bump where
  right_comm v s t := by
    refine Std.ExtTreeMap.ext_getElem? fun u => ?_
    simp only [bump, Std.ExtTreeMap.getElem?_alter, Std.LawfulEqOrd.compare_eq_iff_eq]
    by_cases hst : s = t
    · rw [hst]
    · by_cases hs : s = u
      · have ht : t ≠ u := fun ht => hst (hs.trans ht.symm)
        simp [hs, ht]
      · simp [hs, hst]

end TermVector

namespace TermIndex

variable {x : TermIndex} {tokens tokens' : List String}

/-- The bag of a list does not depend on the order of the list. -/
theorem bagOfWords_of_perm (h : tokens.Perm tokens') : x.bagOfWords tokens = x.bagOfWords tokens' :=
  (h.filterMap x.termId?).foldl_eq ∅

lemma addDocuments_append (x : TermIndex) (ds es : List Document) : x.addDocuments (ds ++ es) =
    (((x.addDocuments ds).1.addDocuments es).1,
      (x.addDocuments ds).2 ++ ((x.addDocuments ds).1.addDocuments es).2) := by
  induction ds generalizing x with
  | nil => rfl
  | cons d ds ih =>
    rw [List.cons_append, addDocuments_cons, ih, addDocuments_cons, List.cons_append]

end TermIndex

/-! ## Documents and queries -/

namespace Corpus

variable {α : Type} [Scalar α] {ds : List Document} {c : Corpus α}

/-- The vector that a document gets when it is added is the one that the finished index gives,
whatever documents are added behind it. -/
lemma addDocument_of_build {before behind : List Document} {d : Document}
    (h : build (before ++ d :: behind) = .ok c) :
    ((TermIndex.addDocuments {} before).1.addDocument d.tokens).2 =
      c.index.bagOfWords d.tokens := by
  refine TermIndex.addDocument_vector _ d.tokens ?_
  rw [index_of_build h, TermIndex.addDocuments_append, TermIndex.addDocuments_cons]
  exact TermIndex.grows_addDocuments behind _

/-- Documents and queries are counted alike. -/
structure CountsAlike (c : Corpus α) (ds : List Document) : Prop where
  added : ∀ before d behind, ds = before ++ d :: behind →
    ((TermIndex.addDocuments {} before).1.addDocument d.tokens).2 = c.index.bagOfWords d.tokens
  stored : ∀ d ∈ ds, c.documents.vector? d.id = some (c.index.bagOfWords d.tokens)
  counted : ∀ tokens : List String, tokens.length < UInt32.size → ∀ (t : TermId) (n : UInt32),
    (c.index.bagOfWords tokens)[t]? = some n ↔
      ∃ token ∈ tokens, c.index.termId? token = some t ∧ n.toNat = tokens.count token
  perm : ∀ tokens tokens' : List String, tokens.Perm tokens' →
    c.index.bagOfWords tokens = c.index.bagOfWords tokens'

/-- **Words are counted alike in documents and in queries.** The bag of the tokens of a document is
the vector that the document got when it was added and that is stored for it. The bag of any list of
tokens that is not too long says how often the terms of the dictionary occur in it, whatever their
order. -/
theorem counts_alike (hids : (ds.map Document.id).Nodup)
    (hfew : (ds.flatMap Document.tokens).length < UInt32.size) :
    ∃ c : Corpus α, build ds = .ok c ∧ c.CountsAlike ds := by
  obtain ⟨c, hc⟩ : ∃ c : Corpus α, build ds = .ok c := exists_build hids
  have hx := invertible_of_build hc (Nat.le_of_lt hfew)
  refine ⟨c, hc, ?_⟩
  constructor
  case added =>
    rintro before d behind rfl
    exact addDocument_of_build hc
  case stored => exact fun d hd => vector?_of_build hc hd
  case counted =>
    intro tokens htokens t n
    rw [hx.getElem?_bagOfWords_eq_some_iff htokens]
    simp only [hx _ t]
  case perm => exact fun tokens tokens' hperm => TermIndex.bagOfWords_of_perm hperm

theorem three_documents_counted_alike :
    (([⟨7, "", ["b", "a", "b"]⟩, ⟨3, "", []⟩, ⟨9, "", ["c", "a"]⟩] : List Document).map
        Document.id).Nodup ∧
      (([⟨7, "", ["b", "a", "b"]⟩, ⟨3, "", []⟩, ⟨9, "", ["c", "a"]⟩] : List Document).flatMap
        Document.tokens).length < UInt32.size ∧
      ∃ c : Corpus Binary64,
        build [⟨7, "", ["b", "a", "b"]⟩, ⟨3, "", []⟩, ⟨9, "", ["c", "a"]⟩] = .ok c ∧
          c.CountsAlike [⟨7, "", ["b", "a", "b"]⟩, ⟨3, "", []⟩, ⟨9, "", ["c", "a"]⟩] ∧
          (c.index.bagOfWords ["c", "z", "a", "c"])[(2 : TermId)]? = some 2 := by
  have hids : (([⟨7, "", ["b", "a", "b"]⟩, ⟨3, "", []⟩, ⟨9, "", ["c", "a"]⟩] :
      List Document).map Document.id).Nodup := by decide
  have hfew : (([⟨7, "", ["b", "a", "b"]⟩, ⟨3, "", []⟩, ⟨9, "", ["c", "a"]⟩] :
      List Document).flatMap Document.tokens).length < UInt32.size := by decide
  obtain ⟨c, hc, halike⟩ := counts_alike (α := Binary64) hids hfew
  refine ⟨hids, hfew, c, hc, halike, ?_⟩
  -- the query counts "c" twice, under the id that it got as the third term
  rw [index_of_build hc]
  cbv

end Corpus

end DocSearch
