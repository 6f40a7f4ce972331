import DocSearch.Proofs.Index.Corpus
import DocSearch.Proofs.Query.Meaning
import DocSearch.Proofs.Ranking.Basic

/-!
# Boolean search

The boolean model finds the documents of which the query is true, and nothing else (`search_exact`).
Three things come together here: the term vector of a document tells its tokens from all others
(`occurs_bagOfWords`), the normal form of a query has the truth values of its expression, and hits
of equal score are ranked by id.
-/

namespace DocSearch

open Query (Assignment Dnf Expr)

/-- The tokens of a document are present, all others are not. -/
def Document.assignment (d : Document) : Assignment := fun token => decide (token ∈ d.tokens)

namespace Boolean

variable {α : Type} [Scalar α]

/-- The terms of a bag are the tokens that it was made of. -/
lemma occurs_bagOfWords {x : TermIndex} (hx : x.Invertible) {tokens : List String}
    (hknown : x.Knows tokens) (token : String) :
    occurs x (x.bagOfWords tokens) token = decide (token ∈ tokens) := by
  rcases ht : x.termId? token with _ | t
  · simp only [occurs, ht, hknown.notMem ht, decide_false]
  · have hmem : t ∈ x.bagOfWords tokens ↔ token ∈ tokens := hx.mem_bagOfWords_iff ht
    simp only [occurs, ht]
    rw [Bool.eq_iff_iff, Std.ExtTreeMap.contains_iff_mem, hmem, decide_eq_true_iff]

variable {ds : List Document} {c : Corpus α}

/-- The documents that satisfy a query, in the order in which they were given. -/
def hits (ds : List Document) (q : Dnf) : List DocId :=
  (ds.filter fun d => q.eval d.assignment).map Document.id

lemma mem_hits {q : Dnf} {id : DocId} :
    id ∈ hits ds q ↔ ∃ d ∈ ds, d.id = id ∧ q.eval d.assignment = true := by
  simp only [hits, List.mem_map, List.mem_filter]
  constructor
  · rintro ⟨d, ⟨hd, heval⟩, hid⟩
    exact ⟨d, hd, hid, heval⟩
  · rintro ⟨d, hd, hid, heval⟩
    exact ⟨d, ⟨hd, heval⟩, hid⟩

/-- Over a built corpus the boolean model scores the documents that satisfy the query. -/
lemma rank_of_build (h : Corpus.build ds = .ok c)
    (hfew : (ds.flatMap Document.tokens).length ≤ UInt32.size) (q : Dnf) :
    rank c q = Ranking.ofList ((hits ds q).map fun id => (id, Scalar.one)) := by
  have hx := Corpus.invertible_of_build h hfew
  have hfilter : ds.filter (fun d => q.eval (occurs c.index (c.index.bagOfWords d.tokens))) =
      ds.filter fun d => q.eval d.assignment := by
    refine List.filter_congr ?_
    intro d hd
    have hoccurs : occurs c.index (c.index.bagOfWords d.tokens) = d.assignment :=
      funext (occurs_bagOfWords hx (Corpus.knows_of_build h d hd))
    rw [hoccurs]
  rw [rank, Corpus.entries_of_build h, List.filter_map, List.map_map, hits, List.map_map, ← hfilter]
  rfl

lemma mem_rank_iff (h : Corpus.build ds = .ok c)
    (hfew : (ds.flatMap Document.tokens).length ≤ UInt32.size) {q : Dnf} {id : DocId} :
    id ∈ (rank c q).map Prod.fst ↔ ∃ d ∈ ds, d.id = id ∧ q.eval d.assignment = true := by
  rw [rank_of_build h hfew, ← mem_hits]
  simp [Ranking.mem_ofList]

lemma nodup_hits (hids : (ds.map Document.id).Nodup) (q : Dnf) : (hits ds q).Nodup :=
  hids.sublist (List.filter_sublist.map Document.id)

/-- **Boolean search is exact.** Over the corpus of documents with distinct ids and fewer tokens
than there are term ids, a query that compiles finds the documents of which its expression is true,
reading every token as "occurs in the document". They are listed by ascending id, each once and with
score one. A query without an expression finds nothing. -/
theorem search_exact {ds : List Document} {compiler : Query.Compiler} {query : String} {q : Dnf}
    (hids : (ds.map Document.id).Nodup)
    (hfew : (ds.flatMap Document.tokens).length < UInt32.size)
    (hq : compiler.compile query = .ok q) :
    ∃ (c : Corpus Binary64) (parsed : Option Expr) (found : List DocId),
      Corpus.build ds = .ok c ∧ compiler.parse query = .ok parsed ∧
      (Model.boolean compiler).rank c query = .ok (found.map fun id => (id, Scalar.one)) ∧
      found.Pairwise (· < ·) ∧ (parsed = none → found = []) ∧
      ∀ e, parsed = some e → ∀ id, id ∈ found ↔
        ∃ d ∈ ds, d.id = id ∧ e.eval (fun token => decide (token ∈ d.tokens)) = true := by
  obtain ⟨c, hc⟩ : ∃ c : Corpus Binary64, Corpus.build ds = .ok c := Corpus.exists_build hids
  obtain ⟨found, hfound, hascends, hmem⟩ :=
    Ranking.exists_ofList_map_const (nodup_hits hids q) (Scalar.one : Binary64)
  have hrank : (Model.boolean compiler).rank c query =
      .ok (found.map fun id => (id, Scalar.one)) := by
    rw [Model.rank_boolean hq, rank_of_build hc (Nat.le_of_lt hfew), hfound]
  rcases Query.Compiler.compile_eq_ok_iff.1 hq with ⟨hparse, rfl⟩ | ⟨e, cs, hparse, -, -⟩
  · refine ⟨c, none, found, hc, hparse, hrank, hascends, fun _ => ?_, fun e he => by simp at he⟩
    refine List.eq_nil_iff_forall_not_mem.2 ?_
    intro id hid
    obtain ⟨d, -, -, heval⟩ := mem_hits.1 ((hmem id).1 hid)
    exact Bool.false_ne_true heval
  · refine ⟨c, some e, found, hc, hparse, hrank, hascends, fun hnone => by simp at hnone, ?_⟩
    intro f hf id
    obtain rfl := Option.some.inj hf
    rw [hmem, mem_hits]
    simp only [Query.Compiler.eval_of_compile hq hparse]
    rfl

theorem search_two_digits :
    ∃ (ds : List Document) (c : Corpus Binary64),
      ds = [⟨7, "", ["1", "2"]⟩, ⟨3, "", ["2"]⟩, ⟨5, "", ["2", "3", "1"]⟩] ∧
      (ds.map Document.id).Nodup ∧ (ds.flatMap Document.tokens).length < UInt32.size ∧
      ({} : Query.Compiler).compile "1 2" = .ok (.clauses [⟨[⟨"1", false⟩, ⟨"2", false⟩]⟩]) ∧
      Corpus.build ds = .ok c ∧
      (Model.boolean {}).rank c "1 2" = .ok [(5, Scalar.one), (7, Scalar.one)] := by
  obtain ⟨c, parsed, found, hbuild, hparse, hrank, hascends, -, hfound⟩ :=
    @search_exact [⟨7, "", ["1", "2"]⟩, ⟨3, "", ["2"]⟩, ⟨5, "", ["2", "3", "1"]⟩] {} "1 2" _
      (by decide) (by decide) Query.Compiler.compile_two_digits
  refine ⟨_, c, rfl, by decide, by decide, Query.Compiler.compile_two_digits, hbuild, ?_⟩
  rw [Query.Compiler.parse_two_digits] at hparse
  have hmem : ∀ id, id ∈ found ↔ id ∈ [5, 7] := by
    intro id
    rw [hfound _ (Except.ok.inj hparse).symm]
    simp only [List.mem_cons, List.not_mem_nil, or_false, exists_eq_or_imp, exists_eq_left]
    constructor
    · rintro (⟨rfl, -⟩ | ⟨-, hfalse⟩ | ⟨rfl, -⟩)
      · exact Or.inr rfl
      · exact absurd hfalse (by simp)
      · exact Or.inl rfl
    · rintro (rfl | rfl) <;> simp
  have hsame : found = [5, 7] := by
    refine List.Perm.eq_of_pairwise ?_ hascends (by decide) ?_
    · intro a b _ _ hab hba
      exact absurd hba (UInt32.lt_asymm hab)
    · exact (List.perm_ext_iff_of_nodup (hascends.imp UInt32.ne_of_lt) (by decide)).2 hmem
  rw [hrank, hsame]
  rfl

end Boolean

end DocSearch
