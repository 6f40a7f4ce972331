import DocSearch.Proofs.Index.Construction
import DocSearch.Proofs.Numeric.Binary64
import DocSearch.Proofs.Ranking.Basic

/-!
# What rankings list

Each model ranks the documents that qualify and leaves out all others: those that the query is true
of, those of positive weight, those that score above the threshold (`rankings_exact`). Qualifying is
decided by the order of numbers, which knows nothing of what is not a number; the ranking is
arranged by the linear order of all scores, and by ids where scores are equal. As the two orders fit
together, a higher threshold cuts a ranking off at the end (`Vector.rank_prefix`).
-/

namespace DocSearch

open Query (Dnf)

/-- In an ascending list, a property that passes on to all earlier members holds of the members in
front. -/
lemma Ascends.filter_prefix {α : Type} {cmp : α → α → Ordering} {p : α → Bool} {l : List α}
    (h : Ascends cmp l) (hp : ∀ a ∈ l, ∀ b ∈ l, cmp a b = .lt → p b = true → p a = true) :
    l.filter p <+: l := by
  induction l with
  | nil => exact List.nil_prefix
  | cons a l ih =>
    obtain ⟨ha, hl⟩ := List.pairwise_cons.1 h
    obtain ⟨hpa, hpl⟩ := List.forall_mem_cons.1 hp
    by_cases hkeep : p a = true
    · rw [List.filter_cons_of_pos hkeep]
      refine (List.prefix_cons_inj a).2 (ih hl fun b hb d hd => ?_)
      exact hpl b hb d (List.mem_cons_of_mem a hd)
    · have hnone : l.filter p = [] := List.filter_eq_nil_iff.2 fun b hb hpb =>
        hkeep (hpa b (List.mem_cons_of_mem a hb) (ha b hb) hpb)
      rw [List.filter_cons_of_neg hkeep, hnone]
      exact List.nil_prefix

namespace Ranking

/-- The ranking lists the documents that qualify and no others, each once and with its score. The
best come first, and of equal ones those with the smaller id. -/
structure Lists (r : Ranking Binary64) (qualifies : DocId → Prop) (score : DocId → Binary64) :
    Prop where
  mem_iff : ∀ id x, (id, x) ∈ r ↔ qualifies id ∧ x = score id
  nodup : (r.map Prod.fst).Nodup
  ordered : r.Pairwise fun a b =>
    Scalar.totalCompare b.2 a.2 = .lt ∨ a.2 = b.2 ∧ a.1 < b.1

variable {entries : List (DocId × Binary64)} {qualifies : DocId → Prop} {score : DocId → Binary64}

/-- The order of a ranking, in terms of scores and ids. -/
lemma compareEntries_eq_lt_iff {a b : DocId × Binary64} : compareEntries a b = .lt ↔
    Scalar.totalCompare b.2 a.2 = .lt ∨ a.2 = b.2 ∧ a.1 < b.1 := by
  rw [compareEntries, Ordering.then_eq_lt, Binary64.totalCompare_eq_iff, Std.compare_eq_lt,
    @eq_comm _ b.2]

/-- Scored documents in order are a ranking of those that they are. -/
lemma lists_ofList (hids : (entries.map Prod.fst).Nodup)
    (hmem : ∀ id x, (id, x) ∈ entries ↔ qualifies id ∧ x = score id) :
    Lists (ofList entries) qualifies score where
  mem_iff := fun id x => mem_ofList.trans (hmem id x)
  nodup := ((List.mergeSort_perm _ _).map Prod.fst).nodup_iff.2 hids
  ordered := (ascends_ofList hids).imp compareEntries_eq_lt_iff.1

/-- All documents with their scores, of which those with a score of some kind are kept. -/
lemma lists_ofList_filter {ids : List DocId} (hids : ids.Nodup) (score : DocId → Binary64)
    (p : Binary64 → Bool) :
    Lists (ofList ((ids.map fun id => (id, score id)).filter fun e => p e.2))
      (fun id => id ∈ ids ∧ p (score id) = true) score := by
  refine lists_ofList ?_ fun id x => ?_
  · refine List.Nodup.sublist (List.filter_sublist.map Prod.fst) ?_
    exact (map_fst_scored ids score).symm ▸ hids
  · rw [List.mem_filter, mem_scored]
    constructor
    · rintro ⟨⟨hid, rfl⟩, hp⟩
      exact ⟨⟨hid, hp⟩, rfl⟩
    · rintro ⟨⟨hid, hp⟩, rfl⟩
      exact ⟨⟨hid, rfl⟩, hp⟩

lemma Lists.ascends {r : Ranking Binary64} (h : Lists r qualifies score) :
    Ascends compareEntries r :=
  h.ordered.imp compareEntries_eq_lt_iff.2

end Ranking

/-! ## The models -/

section Models

variable {ds : List Document} {vs : List TermVector} {c : Corpus Binary64}
  (h : DocumentStore.ofLists ds vs = .ok c.documents)

include h

lemma Boolean.lists_rank (hvectors : ds.length = vs.length) (q : Dnf) :
    (Boolean.rank c q).Lists
      (fun id => ∃ v, c.documents.vector? id = some v ∧ q.eval (Boolean.occurs c.index v) = true)
      fun _ => Scalar.one := by
  refine Ranking.lists_ofList ?_ fun id x => ?_
  · rw [List.map_map]
    refine List.Nodup.sublist (List.filter_sublist.map fun e : Document × TermVector => e.1.id) ?_
    have hids : c.documents.entries.map (fun e => e.1.id) = ds.map Document.id := by
      rw [← DocumentStore.map_fst_entries h hvectors, List.map_map]
      rfl
    exact hids ▸ DocumentStore.nodup_of_ofLists h
  · simp only [List.mem_map, List.mem_filter, DocumentStore.vector?_eq_some_iff h]
    constructor
    · rintro ⟨⟨d, v⟩, ⟨hentry, heval⟩, heq⟩
      obtain ⟨rfl, rfl⟩ := Prod.mk.inj heq
      exact ⟨⟨v, ⟨d, hentry, rfl⟩, heval⟩, rfl⟩
    · rintro ⟨⟨v, ⟨d, hentry, rfl⟩, heval⟩, rfl⟩
      exact ⟨(d, v), ⟨hentry, heval⟩, rfl⟩

lemma ExtendedBoolean.lists_rank (q : Dnf) :
    (ExtendedBoolean.rank c q).Lists
      (fun id => id ∈ c.documents.ids ∧
        Scalar.lt Scalar.zero (ExtendedBoolean.weight c id q) = true)
      fun id => ExtendedBoolean.weight c id q :=
  Ranking.lists_ofList_filter (DocumentStore.nodup_ids h) _ (Scalar.lt Scalar.zero)

namespace Vector

variable (p : Params Binary64) (query : TermVector)

lemma lists_rank :
    (rank c p query).Lists
      (fun id => queryWeights c p query ≠ [] ∧ id ∈ c.documents.ids ∧
        Scalar.lt p.threshold (similarity c id (queryWeights c p query)) = true)
      fun id => similarity c id (queryWeights c p query) := by
  rw [rank]
  split
  · next hnone => exact ⟨by simp [hnone], List.nodup_nil, List.Pairwise.nil⟩
  · next hsome =>
    have hne : queryWeights c p query ≠ [] := hsome
    simpa only [hne, true_and, ne_eq, not_false_eq_true] using
      Ranking.lists_ofList_filter (DocumentStore.nodup_ids h) (fun id => similarity c id _)
        (Scalar.lt p.threshold)

/-- The ranking for a higher threshold is what the higher threshold leaves of the ranking. -/
lemma rank_eq_filter {low high : Binary64} (hlow : low.isNaN = false) (hle : high.lt low = false) :
    rank c { p with threshold := high } query =
      (rank c { p with threshold := low } query).filter fun e => Scalar.lt high e.2 := by
  have hhigh := lists_rank h { p with threshold := high } query
  have hall := lists_rank h { p with threshold := low } query
  refine hhigh.ascends.eq_of_mem_iff (hall.ascends.sublist List.filter_sublist) ?_
  rintro ⟨id, x⟩
  rw [List.mem_filter, hhigh.mem_iff, hall.mem_iff]
  constructor
  · rintro ⟨⟨hne, hid, hlt⟩, rfl⟩
    exact ⟨⟨⟨hne, hid, Binary64.lt_of_not_lt_of_lt hlow hle hlt⟩, rfl⟩, hlt⟩
  · rintro ⟨⟨⟨hne, hid, -⟩, rfl⟩, hlt⟩
    exact ⟨⟨hne, hid, hlt⟩, rfl⟩

/-- A higher threshold cuts off the end of a ranking. -/
lemma rank_prefix {low high : Binary64} (hlow : low.isNaN = false) (hle : high.lt low = false) :
    rank c { p with threshold := high } query <+: rank c { p with threshold := low } query := by
  rw [rank_eq_filter h p query hlow hle]
  have hall := lists_rank h { p with threshold := low } query
  refine hall.ascends.filter_prefix ?_
  rintro ⟨id, x⟩ hx ⟨id', y⟩ - hxy hy
  -- what is ranked at all has a number for a score
  obtain ⟨⟨-, -, hlt⟩, rfl⟩ := (hall.mem_iff id x).1 hx
  obtain ⟨-, hnumber, -⟩ := Binary64.lt_eq_true_iff.1 hlt
  rcases Ranking.compareEntries_eq_lt_iff.1 hxy with hbefore | ⟨rfl, -⟩
  · exact Binary64.lt_of_lt_of_totalCompare hnumber hy hbefore
  · exact hy

end Vector

end Models

/-- **Rankings are exact.** Over documents with distinct ids and a vector each, the boolean model
lists the documents that the query is true of, the extended boolean model those with a positive
weight, and the vector model those that score above the threshold, of which there are none if the
query has no weights. Each is listed once, by descending score and at equal scores by ascending id.
So the vector ranking for a threshold begins with the one for any higher threshold. -/
theorem rankings_exact {ds : List Document} {vs : List TermVector} {c : Corpus Binary64}
    (h : DocumentStore.ofLists ds vs = .ok c.documents) (hvectors : ds.length = vs.length)
    (q : Dnf) (query : TermVector) (p : Vector.Params Binary64) :
    (Boolean.rank c q).Lists
      (fun id => ∃ v, c.documents.vector? id = some v ∧ q.eval (Boolean.occurs c.index v) = true)
      (fun _ => Scalar.one) ∧
    (ExtendedBoolean.rank c q).Lists
      (fun id => id ∈ c.documents.ids ∧
        Scalar.lt Scalar.zero (ExtendedBoolean.weight c id q) = true)
      (fun id => ExtendedBoolean.weight c id q) ∧
    (Vector.rank c p query).Lists
      (fun id => Vector.queryWeights c p query ≠ [] ∧ id ∈ c.documents.ids ∧
        Scalar.lt p.threshold (Vector.similarity c id (Vector.queryWeights c p query)) = true)
      (fun id => Vector.similarity c id (Vector.queryWeights c p query)) ∧
    ∀ low high : Binary64, low.isNaN = false → high.lt low = false →
      Vector.rank c { p with threshold := high } query <+:
        Vector.rank c { p with threshold := low } query :=
  ⟨Boolean.lists_rank h hvectors q, ExtendedBoolean.lists_rank h q, Vector.lists_rank h p query,
    fun _ _ hlow hle => Vector.rank_prefix h p query hlow hle⟩

theorem three_documents_ranked :
    ∃ (ds : List Document) (vs : List TermVector) (c : Corpus Binary64) (query : TermVector),
      ds = [⟨7, "", ["1", "2"]⟩, ⟨3, "", ["2"]⟩, ⟨5, "", ["2", "3", "1"]⟩] ∧
      DocumentStore.ofLists ds vs = .ok c.documents ∧ ds.length = vs.length ∧
      Boolean.rank c .always = [(3, Scalar.one), (5, Scalar.one), (7, Scalar.one)] ∧
      ExtendedBoolean.rank c .always = [(3, Scalar.one), (5, Scalar.one), (7, Scalar.one)] ∧
      query = c.index.bagOfWords ["1", "3"] ∧ (⟨0⟩ : Binary64).isNaN = false ∧
      (⟨0x3fe0000000000000⟩ : Binary64).lt ⟨0⟩ = false ∧
      Vector.rank c ⟨Scalar.zero, ⟨0x3fe0000000000000⟩⟩ query <+:
        Vector.rank c ⟨Scalar.zero, ⟨0⟩⟩ query := by
  obtain ⟨ds, hds⟩ : ∃ ds : List Document,
      ds = [⟨7, "", ["1", "2"]⟩, ⟨3, "", ["2"]⟩, ⟨5, "", ["2", "3", "1"]⟩] := ⟨_, rfl⟩
  obtain ⟨c, hc⟩ : ∃ c : Corpus Binary64, Corpus.build ds = .ok c :=
    Corpus.exists_build (by rw [hds]; decide)
  have hstore := Corpus.documents_of_build hc
  have hvectors : ds.length = (ds.map fun d => c.index.bagOfWords d.tokens).length :=
    (List.length_map _).symm
  obtain ⟨hboolean, hextended, -, hprefix⟩ := rankings_exact hstore hvectors .always
    (c.index.bagOfWords ["1", "3"]) ⟨Scalar.zero, ⟨0⟩⟩
  have hids : c.documents.ids = [7, 3, 5] := by
    rw [Corpus.ids_of_build hc, hds]
    rfl
  have hall : Ascends Ranking.compareEntries
      [(3, (Scalar.one : Binary64)), (5, Scalar.one), (7, Scalar.one)] := by
    rw [Ascends]
    decide
  have hlisted : ∀ (id : DocId) (x : Binary64), id ∈ [7, 3, 5] ∧ x = Scalar.one ↔
      (id, x) ∈ [(3, Scalar.one), (5, Scalar.one), (7, Scalar.one)] := by
    intro id x
    simp only [List.mem_cons, List.not_mem_nil, or_false, Prod.mk.injEq]
    tauto
  have hpositive : Scalar.lt Scalar.zero (Scalar.one : Binary64) = true := by decide
  refine ⟨ds, _, c, _, hds, hstore, hvectors, hboolean.ascends.eq_of_mem_iff hall ?_,
    hextended.ascends.eq_of_mem_iff hall ?_, rfl, by decide, by decide,
    hprefix ⟨0⟩ ⟨0x3fe0000000000000⟩ (by decide) (by decide)⟩
  · rintro ⟨id, x⟩
    rw [hboolean.mem_iff, ← hlisted, ← hids, ← DocumentStore.exists_vector?_iff hstore hvectors]
    simp only [Dnf.eval, and_true]
  · rintro ⟨id, x⟩
    rw [hextended.mem_iff, ← hlisted, ← hids]
    simp only [ExtendedBoolean.weight, hpositive, and_true]

end DocSearch
