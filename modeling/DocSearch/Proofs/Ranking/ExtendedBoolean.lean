import DocSearch.Proofs.Index.Statistics
import DocSearch.Proofs.Query.Canonical
import DocSearch.Proofs.Ranking.Boolean
import DocSearch.Proofs.Ranking.Mean

/-!
# Extended boolean search

The extended boolean model weighs the literals of a query in a document, combines them to weights of
the conjunctions, and these to the weight of the query. Both times it takes a proper mean, so the
weight of the query is one as well, of all literals (`weight_properMean`): between zero and one,
extreme only if all literals are, and growing with each of them.

As a mean is positive if one of its weights is, a document is found if one literal speaks for it,
even if the others do not (`mem_rank_iff_speaks`). A token speaks for the documents that contain it,
unless all of them do, for then it has no weight at all; its negation speaks for all other
documents. The boolean model is the stricter one as long as no token of the query occurs everywhere.
-/

namespace DocSearch.ExtendedBoolean

open Query (Conjunction Dnf Literal)

/-! ## Weights of literals -/

/-- The literal speaks for a document of a corpus. A plain one does if its token occurs in the
document but not in all documents, a negated one if its token is absent from the document or occurs
in all documents. -/
def Speaks (ds : List Document) (d : Document) (l : Literal) : Prop :=
  if l.negated then l.token ∉ d.tokens ∨ ∀ e ∈ ds, l.token ∈ e.tokens
  else l.token ∈ d.tokens ∧ ∃ e ∈ ds, l.token ∉ e.tokens

instance (ds : List Document) (d : Document) (l : Literal) : Decidable (Speaks ds d l) :=
  inferInstanceAs (Decidable (if l.negated then _ else _))

section Literals

variable {ds : List Document} {c : Corpus ℝ} {token : String}

lemma termWeight_of_some {t : TermId} (ht : c.index.termId? token = some t) (id : DocId) :
    termWeight c id token = c.tf t id * c.normalizedIdf t := by
  rw [termWeight, ht]

lemma termWeight_of_none (ht : c.index.termId? token = none) (id : DocId) :
    termWeight c id token = 0 := by
  rw [termWeight, ht]
  exact Scalar.zero_real

lemma literalWeight_plain (c : Corpus ℝ) (id : DocId) (token : String) :
    literalWeight c id ⟨token, false⟩ = termWeight c id token := rfl

lemma literalWeight_negated (c : Corpus ℝ) (id : DocId) (token : String) :
    literalWeight c id ⟨token, true⟩ = if termWeight c id token = 0 then 1 else 0 := by
  simp [literalWeight]

variable (h : Corpus.build ds = .ok c) (hfew : (ds.flatMap Document.tokens).length < UInt32.size)

include h hfew

theorem termWeight_mem_unit (id : DocId) (token : String) :
    termWeight c id token ∈ Set.Icc 0 1 := by
  rcases ht : c.index.termId? token with _ | t
  · rw [termWeight_of_none ht]
    exact ⟨le_refl 0, zero_le_one⟩
  · have hknown := (Corpus.invertible_of_build h (Nat.le_of_lt hfew) token t).1 ht
    obtain ⟨htf, htf'⟩ := Corpus.tf_mem_unit h t id
    obtain ⟨hidf, hidf'⟩ := Corpus.normalizedIdf_mem_unit h hfew hknown
    rw [termWeight_of_some ht]
    exact ⟨mul_nonneg htf hidf, mul_le_one₀ htf' hidf hidf'⟩

/-- A token weighs something in the documents that contain it, unless all of them do. -/
theorem termWeight_pos_iff {d : Document} (hd : d ∈ ds) :
    0 < termWeight c d.id token ↔ token ∈ d.tokens ∧ ∃ e ∈ ds, token ∉ e.tokens := by
  rcases ht : c.index.termId? token with _ | t
  · have hnot : token ∉ d.tokens := (Corpus.knows_of_build h d hd).notMem ht
    simp [termWeight_of_none ht, hnot]
  · have hknown := (Corpus.invertible_of_build h (Nat.le_of_lt hfew) token t).1 ht
    rw [termWeight_of_some ht, mul_pos_iff_of_nonneg (Corpus.tf_mem_unit h t d.id).1
      (Corpus.normalizedIdf_mem_unit h hfew hknown).1, Corpus.tf_pos_iff h hfew hknown hd,
      Corpus.normalizedIdf_pos_iff h hfew hknown]

theorem literalWeight_mem_unit (id : DocId) (l : Literal) :
    literalWeight c id l ∈ Set.Icc 0 1 := by
  obtain ⟨token, negated⟩ := l
  cases negated
  · rw [literalWeight_plain]
    exact termWeight_mem_unit h hfew id token
  · rw [literalWeight_negated]
    split
    · exact ⟨zero_le_one, le_refl 1⟩
    · exact ⟨le_refl 0, zero_le_one⟩

/-- The literals that speak for a document are those that weigh something in it. -/
theorem literalWeight_pos_iff {d : Document} (hd : d ∈ ds) (l : Literal) :
    0 < literalWeight c d.id l ↔ Speaks ds d l := by
  obtain ⟨token, negated⟩ := l
  have hweight : 0 < termWeight c d.id token ↔ token ∈ d.tokens ∧ ∃ e ∈ ds, token ∉ e.tokens :=
    termWeight_pos_iff h hfew hd
  cases negated
  · exact hweight
  · -- a negated literal only asks whether its token weighs nothing
    have hnonneg := (termWeight_mem_unit h hfew d.id token).1
    have hzero : termWeight c d.id token = 0 ↔ token ∉ d.tokens ∨ ∀ e ∈ ds, token ∈ e.tokens := by
      rw [← not_iff_not, ← Ne, ← hnonneg.lt_iff_ne', hweight]
      push Not
      rfl
    rw [literalWeight_negated, Speaks, if_pos rfl, ← hzero]
    split
    · next hw => exact iff_of_true zero_lt_one hw
    · next hw => exact iff_of_false (lt_irrefl 0) hw

lemma literalWeight_eq_zero_iff {d : Document} (hd : d ∈ ds) (l : Literal) :
    literalWeight c d.id l = 0 ↔ ¬ Speaks ds d l := by
  rw [← literalWeight_pos_iff h hfew hd, (literalWeight_mem_unit h hfew d.id l).1.lt_iff_ne',
    not_ne_iff]

end Literals

/-! ## Weights of queries -/

section Queries

variable {ds : List Document} {c : Corpus ℝ} {qs : List Conjunction} {q : Conjunction}
  (h : Corpus.build ds = .ok c) (hfew : (ds.flatMap Document.tokens).length < UInt32.size)

include h hfew

lemma conjunctionWeight_mem_unit (id : DocId) (hq : q.literals ≠ []) :
    conjunctionWeight c id q ∈ Set.Icc 0 1 :=
  properMean_allWeight.map_mem_unit hq fun l _ => literalWeight_mem_unit h hfew id l

lemma conjunctionWeight_eq_zero_iff (id : DocId) (hq : q.literals ≠ []) :
    conjunctionWeight c id q = 0 ↔ ∀ l ∈ q.literals, literalWeight c id l = 0 :=
  properMean_allWeight.map_eq_zero_iff hq fun l _ => literalWeight_mem_unit h hfew id l

lemma conjunctionWeight_eq_one_iff (id : DocId) (hq : q.literals ≠ []) :
    conjunctionWeight c id q = 1 ↔ ∀ l ∈ q.literals, literalWeight c id l = 1 :=
  properMean_allWeight.map_eq_one_iff hq fun l _ => literalWeight_mem_unit h hfew id l

lemma conjunctionWeight_pos_iff (id : DocId) (hq : q.literals ≠ []) :
    0 < conjunctionWeight c id q ↔ ∃ l ∈ q.literals, 0 < literalWeight c id l :=
  properMean_allWeight.map_pos_iff hq fun l _ => literalWeight_mem_unit h hfew id l

lemma conjunctionWeight_mono {id id' : DocId} (hq : q.literals ≠ [])
    (hle : ∀ l ∈ q.literals, literalWeight c id l ≤ literalWeight c id' l) :
    conjunctionWeight c id q ≤ conjunctionWeight c id' q :=
  properMean_allWeight.map_mono hq (fun l _ => literalWeight_mem_unit h hfew id l)
    (fun l _ => literalWeight_mem_unit h hfew id' l) hle

/-- A single literal needs no case of its own. -/
lemma conjunctionWeight_eq (id : DocId) (hq : q.literals ≠ []) :
    conjunctionWeight c id q = closeness (q.literals.map (literalWeight c id)) :=
  allWeight_eq (map_ne_nil hq) (weights_map fun l _ => literalWeight_mem_unit h hfew id l)

variable (hqs : qs ≠ []) (hliterals : ∀ q ∈ qs, q.literals ≠ [])

include hqs hliterals

lemma weight_pos_iff (id : DocId) : 0 < weight c id (.clauses qs) ↔
    ∃ q ∈ qs, ∃ l ∈ q.literals, 0 < literalWeight c id l := by
  have hunit : ∀ q ∈ qs, conjunctionWeight c id q ∈ Set.Icc 0 1 :=
    fun q hq => conjunctionWeight_mem_unit h hfew id (hliterals q hq)
  rw [weight, properMean_anyWeight.map_pos_iff hqs hunit]
  exact exists_congr fun q => and_congr_right fun hq =>
    conjunctionWeight_pos_iff h hfew id (hliterals q hq)

end Queries

/-- **Scores are a proper mean.** Over the corpus of documents with fewer tokens than there are term
ids, the weight of a query of conjunctions that are not empty is between zero and one. It is zero,
or one, exactly if all literals of the query are. A document in which each literal weighs at least
as much as in another one has at least the weight of the other. The formulas for conjunctions and
disjunctions hold throughout, so the cases of their own for a single literal and a single
conjunction are no exceptions. -/
theorem weight_properMean {ds : List Document} {c : Corpus ℝ} {qs : List Conjunction}
    (h : Corpus.build ds = .ok c) (hfew : (ds.flatMap Document.tokens).length < UInt32.size)
    (hqs : qs ≠ []) (hliterals : ∀ q ∈ qs, q.literals ≠ []) :
    (∀ id, weight c id (.clauses qs) ∈ Set.Icc 0 1 ∧
      (weight c id (.clauses qs) = 0 ↔ ∀ q ∈ qs, ∀ l ∈ q.literals, literalWeight c id l = 0) ∧
      (weight c id (.clauses qs) = 1 ↔ ∀ q ∈ qs, ∀ l ∈ q.literals, literalWeight c id l = 1)) ∧
    (∀ id id', (∀ q ∈ qs, ∀ l ∈ q.literals, literalWeight c id l ≤ literalWeight c id' l) →
      weight c id (.clauses qs) ≤ weight c id' (.clauses qs)) ∧
    ∀ id, weight c id (.clauses qs) = remoteness (qs.map (conjunctionWeight c id)) ∧
      ∀ q ∈ qs, conjunctionWeight c id q = closeness (q.literals.map (literalWeight c id)) := by
  have hunit : ∀ id, ∀ q ∈ qs, conjunctionWeight c id q ∈ Set.Icc 0 1 :=
    fun id q hq => conjunctionWeight_mem_unit h hfew id (hliterals q hq)
  refine ⟨fun id => ⟨?mem_unit, ?zero, ?one⟩, ?mono, fun id => ⟨?disjunction, ?conjunction⟩⟩
  case mem_unit => exact properMean_anyWeight.map_mem_unit hqs (hunit id)
  case zero =>
    rw [weight, properMean_anyWeight.map_eq_zero_iff hqs (hunit id)]
    exact forall₂_congr fun q hq => conjunctionWeight_eq_zero_iff h hfew id (hliterals q hq)
  case one =>
    rw [weight, properMean_anyWeight.map_eq_one_iff hqs (hunit id)]
    exact forall₂_congr fun q hq => conjunctionWeight_eq_one_iff h hfew id (hliterals q hq)
  case mono =>
    intro id id' hle
    exact properMean_anyWeight.map_mono hqs (hunit id) (hunit id') fun q hq =>
      conjunctionWeight_mono h hfew (hliterals q hq) (hle q hq)
  case disjunction => exact anyWeight_eq (map_ne_nil hqs) (weights_map (hunit id))
  case conjunction => exact fun q hq => conjunctionWeight_eq h hfew id (hliterals q hq)

theorem two_conjunctions_properMean :
    ∃ (ds : List Document) (c : Corpus ℝ) (qs : List Conjunction),
      ds = [⟨7, "", ["1", "2"]⟩, ⟨3, "", ["2"]⟩, ⟨5, "", ["2", "3", "1"]⟩] ∧
      qs = [⟨[⟨"1", false⟩, ⟨"2", false⟩]⟩, ⟨[⟨"3", false⟩]⟩] ∧
      Corpus.build ds = .ok c ∧ (ds.flatMap Document.tokens).length < UInt32.size ∧
      qs ≠ [] ∧ (∀ q ∈ qs, q.literals ≠ []) ∧
      weight c 7 (.clauses qs) ∈ Set.Icc 0 1 ∧ weight c 3 (.clauses qs) = 0 := by
  obtain ⟨ds, hds⟩ : ∃ ds : List Document,
      ds = [⟨7, "", ["1", "2"]⟩, ⟨3, "", ["2"]⟩, ⟨5, "", ["2", "3", "1"]⟩] := ⟨_, rfl⟩
  obtain ⟨qs, hqs⟩ : ∃ qs : List Conjunction,
      qs = [⟨[⟨"1", false⟩, ⟨"2", false⟩]⟩, ⟨[⟨"3", false⟩]⟩] := ⟨_, rfl⟩
  have hfew : (ds.flatMap Document.tokens).length < UInt32.size := by rw [hds]; decide
  have hne : qs ≠ [] := by rw [hqs]; decide
  have hliterals : ∀ q ∈ qs, q.literals ≠ [] := by rw [hqs]; decide
  have hthree : ⟨3, "", ["2"]⟩ ∈ ds := by rw [hds]; decide
  have hsilent : ∀ q ∈ qs, ∀ l ∈ q.literals, ¬ Speaks ds ⟨3, "", ["2"]⟩ l := by
    rw [hds, hqs]
    decide
  obtain ⟨c, hc⟩ : ∃ c : Corpus ℝ, Corpus.build ds = .ok c :=
    Corpus.exists_build (by rw [hds]; decide)
  obtain ⟨hweight, -, -⟩ := weight_properMean hc hfew hne hliterals
  refine ⟨ds, c, qs, hds, hqs, hc, hfew, hne, hliterals, (hweight 7).1, (hweight 3).2.1.2 ?_⟩
  exact fun q hq l hl => (literalWeight_eq_zero_iff hc hfew hthree l).2 (hsilent q hq l hl)

/-! ## Hits -/

section Hits

variable {ds : List Document} {c : Corpus ℝ} {q : Dnf}

/-- The documents with a positive weight are ranked. -/
lemma mem_rank_iff (h : Corpus.build ds = .ok c) {id : DocId} :
    id ∈ (rank c q).map Prod.fst ↔ ∃ d ∈ ds, d.id = id ∧ 0 < weight c d.id q := by
  simp [rank, Ranking.mem_ofList, Corpus.ids_of_build h, and_assoc, and_left_comm, and_comm]

/-- A literal that is true of a document speaks for it, unless its token occurs everywhere. -/
lemma speaks_of_literal_eval {d : Document} {l : Literal} (hrare : ∃ e ∈ ds, l.token ∉ e.tokens)
    (heval : l.eval d.assignment = true) : Speaks ds d l := by
  obtain ⟨token, negated⟩ := l
  cases negated
  · exact ⟨by simpa [Literal.eval, Document.assignment] using heval, hrare⟩
  · exact Or.inl (by simpa [Literal.eval, Document.assignment] using heval)

variable {compiler : Query.Compiler} {query : String}

/-- If no token occurs everywhere, a literal of a query speaks for each document that the query is
true of. -/
lemma speaks_of_eval (hq : compiler.compile query = .ok q)
    (hrare : ∀ token ∈ q.tokens, ∃ e ∈ ds, token ∉ e.tokens) {d : Document}
    (heval : q.eval d.assignment = true) :
    q = .always ∨ ∃ k ∈ q.conjunctions, ∃ l ∈ k.literals, Speaks ds d l := by
  cases q with
  | empty => exact absurd heval Bool.false_ne_true
  | never => exact absurd heval Bool.false_ne_true
  | always => exact Or.inl rfl
  | clauses qs =>
    obtain ⟨-, hliterals⟩ := Query.Compiler.ne_nil_of_compile hq
    obtain ⟨k, hk, hall⟩ := List.any_eq_true.1 heval
    obtain ⟨l, hl⟩ := List.exists_mem_of_ne_nil _ (hliterals k hk)
    have htoken : l.token ∈ (Dnf.clauses qs).tokens :=
      Query.mem_tokens_clauses.2 ⟨k, hk, l, hl, rfl⟩
    exact Or.inr ⟨k, hk, l, hl,
      speaks_of_literal_eval (hrare l.token htoken) (List.all_eq_true.1 hall l hl)⟩

variable (h : Corpus.build ds = .ok c) (hfew : (ds.flatMap Document.tokens).length < UInt32.size)
  (hq : compiler.compile query = .ok q)

include h hfew hq

/-- A compiled query weighs something in the documents that one of its literals speaks for. -/
lemma weight_pos_iff_speaks {d : Document} (hd : d ∈ ds) : 0 < weight c d.id q ↔
    q = .always ∨ ∃ k ∈ q.conjunctions, ∃ l ∈ k.literals, Speaks ds d l := by
  cases q with
  | empty => simp [weight, Dnf.conjunctions]
  | never => simp [weight, Dnf.conjunctions]
  | always => simp [weight]
  | clauses qs =>
    obtain ⟨hqs, hliterals⟩ := Query.Compiler.ne_nil_of_compile hq
    rw [weight_pos_iff h hfew hqs hliterals]
    simp only [literalWeight_pos_iff h hfew hd, reduceCtorEq, false_or, Dnf.conjunctions]

end Hits

/-- **Which documents are found.** Over the corpus of documents with fewer tokens than there are
term ids, a query that compiles finds all documents if it is always true, and otherwise those that a
literal of one of its conjunctions speaks for. If no token of the query occurs in all documents, it
finds whatever the boolean model finds. -/
theorem mem_rank_iff_speaks {ds : List Document} {c : Corpus ℝ} {compiler : Query.Compiler}
    {query : String} {q : Dnf} (h : Corpus.build ds = .ok c)
    (hfew : (ds.flatMap Document.tokens).length < UInt32.size)
    (hq : compiler.compile query = .ok q) :
    (∀ id, id ∈ (rank c q).map Prod.fst ↔ ∃ d ∈ ds, d.id = id ∧
      (q = .always ∨ ∃ k ∈ q.conjunctions, ∃ l ∈ k.literals, Speaks ds d l)) ∧
    ((∀ token ∈ q.tokens, ∃ e ∈ ds, token ∉ e.tokens) →
      ∀ id ∈ (Boolean.rank c q).map Prod.fst, id ∈ (rank c q).map Prod.fst) := by
  have hfound : ∀ id, id ∈ (rank c q).map Prod.fst ↔ ∃ d ∈ ds, d.id = id ∧
      (q = .always ∨ ∃ k ∈ q.conjunctions, ∃ l ∈ k.literals, Speaks ds d l) := by
    intro id
    rw [mem_rank_iff h]
    refine exists_congr fun d => and_congr_right fun hd => and_congr_right fun _ => ?_
    exact weight_pos_iff_speaks h hfew hq hd
  refine ⟨hfound, fun hrare id hid => (hfound id).2 ?_⟩
  obtain ⟨d, hd, rfl, heval⟩ := (Boolean.mem_rank_iff h (Nat.le_of_lt hfew)).1 hid
  exact ⟨d, hd, rfl, speaks_of_eval hq hrare heval⟩

theorem two_digits_found :
    ∃ (ds : List Document) (c : Corpus ℝ),
      ds = [⟨7, "", ["1", "2"]⟩, ⟨3, "", ["2"]⟩, ⟨5, "", ["4"]⟩] ∧ Corpus.build ds = .ok c ∧
      (ds.flatMap Document.tokens).length < UInt32.size ∧
      ({} : Query.Compiler).compile "1 2" = .ok (.clauses [⟨[⟨"1", false⟩, ⟨"2", false⟩]⟩]) ∧
      (∀ token ∈ (Dnf.clauses [⟨[⟨"1", false⟩, ⟨"2", false⟩]⟩]).tokens,
        ∃ e ∈ ds, token ∉ e.tokens) ∧
      (∀ id, id ∈ (rank c (.clauses [⟨[⟨"1", false⟩, ⟨"2", false⟩]⟩])).map Prod.fst ↔
        id = 7 ∨ id = 3) ∧
      ∀ id ∈ (Boolean.rank c (.clauses [⟨[⟨"1", false⟩, ⟨"2", false⟩]⟩])).map Prod.fst,
        id = 7 ∨ id = 3 := by
  obtain ⟨ds, hds⟩ : ∃ ds : List Document,
      ds = [⟨7, "", ["1", "2"]⟩, ⟨3, "", ["2"]⟩, ⟨5, "", ["4"]⟩] := ⟨_, rfl⟩
  have hfew : (ds.flatMap Document.tokens).length < UInt32.size := by rw [hds]; decide
  obtain ⟨c, hc⟩ : ∃ c : Corpus ℝ, Corpus.build ds = .ok c :=
    Corpus.exists_build (by rw [hds]; decide)
  have hrare : ∀ token ∈ (Dnf.clauses [⟨[⟨"1", false⟩, ⟨"2", false⟩]⟩]).tokens,
      ∃ e ∈ ds, token ∉ e.tokens := by
    have htokens : (Dnf.clauses [⟨[⟨"1", false⟩, ⟨"2", false⟩]⟩]).tokens = ["1", "2"] := by cbv
    rw [hds, htokens]
    decide
  obtain ⟨hfound, hboolean⟩ := mem_rank_iff_speaks hc hfew Query.Compiler.compile_two_digits
  have hids : ∀ id, id ∈ (rank c (.clauses [⟨[⟨"1", false⟩, ⟨"2", false⟩]⟩])).map Prod.fst ↔
      id = 7 ∨ id = 3 := by
    intro id
    rw [hfound, hds]
    simp [Dnf.conjunctions, Speaks, @eq_comm DocId _ id]
  exact ⟨ds, c, hds, hc, hfew, Query.Compiler.compile_two_digits, hrare, hids,
    fun id hid => (hids id).1 (hboolean hrare id hid)⟩

end DocSearch.ExtendedBoolean
