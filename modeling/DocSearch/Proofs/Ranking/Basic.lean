import DocSearch.Numeric.Binary64
import DocSearch.Proofs.Ascending
import DocSearch.Ranking.Model

/-!
# Rankings and their order

Scored documents with different ids are never equal in the order of a ranking. So a ranking of
distinct documents is strictly ordered, whatever their scores are (`Ranking.ascends_ofList`).

The models that compile queries rank by the normal form, and by nothing else of the query
(`Model.rank_boolean`, `Model.rank_extendedBoolean`).
-/

namespace DocSearch

instance : Std.TransCmp (Scalar.totalCompare : Binary64 → Binary64 → Ordering) :=
  inferInstanceAs (Std.TransCmp (compareOn Binary64.totalKey))

namespace Ranking

variable {α : Type} [Scalar α]

omit [Scalar α] in
@[simp] lemma map_fst_scored (ids : List DocId) (score : DocId → α) :
    (ids.map fun id => (id, score id)).map Prod.fst = ids := by
  rw [List.map_map]
  exact List.map_id ids

omit [Scalar α] in
lemma mem_scored {ids : List DocId} {score : DocId → α} {id : DocId} {x : α} :
    (id, x) ∈ ids.map (fun id => (id, score id)) ↔ id ∈ ids ∧ x = score id := by
  rw [List.mem_map]
  constructor
  · rintro ⟨id, hid, heq⟩
    obtain ⟨rfl, rfl⟩ := Prod.mk.inj heq
    exact ⟨hid, rfl⟩
  · rintro ⟨hid, rfl⟩
    exact ⟨id, hid, rfl⟩

lemma mem_ofList {entries : List (DocId × α)} {p : DocId × α} :
    p ∈ ofList entries ↔ p ∈ entries :=
  List.mem_mergeSort

variable [Std.TransCmp (Scalar.totalCompare : α → α → Ordering)]

instance : Std.TransCmp (compareEntries : DocId × α → DocId × α → Ordering) :=
  letI : Ord α := ⟨Scalar.totalCompare⟩
  have : Std.TransOrd α := inferInstanceAs (Std.TransCmp Scalar.totalCompare)
  have : Std.TransCmp fun a b : DocId × α => compareOn Prod.snd b a := inferInstance
  inferInstanceAs (Std.TransCmp
    (compareLex (fun a b : DocId × α => compareOn Prod.snd b a) (compareOn Prod.fst)))

/-- A ranking of distinct documents is strictly ordered. -/
theorem ascends_ofList {entries : List (DocId × α)} (hids : (entries.map Prod.fst).Nodup) :
    Ascends compareEntries (ofList entries) := by
  refine ascends_mergeSort (List.Pairwise.imp ?_ (List.pairwise_map.1 hids))
  intro p q hne heq
  obtain ⟨-, hid⟩ := Ordering.then_eq_eq.1 heq
  exact hne (Std.LawfulEqOrd.eq_of_compare hid)

/-- A ranking of distinct documents does not depend on the order in which they are given. -/
theorem ofList_of_perm {entries entries' : List (DocId × α)} (hperm : entries.Perm entries')
    (hids : (entries.map Prod.fst).Nodup) : ofList entries = ofList entries' := by
  have hids' : (entries'.map Prod.fst).Nodup := (hperm.map Prod.fst).nodup hids
  refine (ascends_ofList hids).eq_of_mem_iff (ascends_ofList hids') fun p => ?_
  rw [mem_ofList, mem_ofList, hperm.mem_iff]

/-- Documents of one and the same score are ranked by their ids. -/
theorem exists_ofList_map_const {ids : List DocId} (hids : ids.Nodup) (score : α) :
    ∃ hits : List DocId, ofList (ids.map fun id => (id, score)) = hits.map (fun id => (id, score)) ∧
      hits.Pairwise (· < ·) ∧ ∀ id, id ∈ hits ↔ id ∈ ids := by
  have hentries : ((ids.map fun id => (id, score)).map Prod.fst).Nodup :=
    (map_fst_scored ids fun _ => score).symm ▸ hids
  have hscore : ∀ p ∈ ofList (ids.map fun id => (id, score)), p.2 = score := by
    rintro ⟨id, x⟩ hp
    exact (mem_scored.1 (mem_ofList.1 hp)).2
  refine ⟨(ofList (ids.map fun id => (id, score))).map Prod.fst, ?_, ?_, ?_⟩
  · rw [List.map_map]
    refine (List.map_id _).symm.trans (List.map_congr_left ?_)
    intro p hp
    exact Prod.ext rfl (hscore p hp)
  · refine List.pairwise_map.2 (List.Pairwise.imp_of_mem ?_ (ascends_ofList hentries))
    intro p q hp hq hlt
    -- the scores are equal, so the ids decide
    have hself : Scalar.totalCompare score score = .eq := Std.ReflCmp.compare_self
    rw [compareEntries, hscore p hp, hscore q hq, hself] at hlt
    exact Std.compare_eq_lt.1 hlt
  · intro id
    simp [mem_ofList]

end Ranking

/-- Ranked are documents of the corpus. -/
lemma ExtendedBoolean.mem_ids_of_mem_rank {α : Type} [Scalar α] {c : Corpus α} {q : Query.Dnf}
    {p : DocId × α} (hp : p ∈ ExtendedBoolean.rank c q) : p.1 ∈ c.documents.ids :=
  (Ranking.mem_scored.1 (List.mem_of_mem_filter (Ranking.mem_ofList.1 hp))).1

namespace Model

variable {α : Type} [Scalar α] {compiler : Query.Compiler} {query : String} {d : Query.Dnf}
  {corpus : Corpus α}

lemma rank_boolean (h : compiler.compile query = .ok d) :
    (Model.boolean compiler).rank corpus query = .ok (Boolean.rank corpus d) := by
  simp only [rank, h, Except.map, Except.mapError]

lemma rank_extendedBoolean (h : compiler.compile query = .ok d) :
    (Model.extendedBoolean compiler).rank corpus query = .ok (ExtendedBoolean.rank corpus d) := by
  simp only [rank, h, Except.map, Except.mapError]

lemma rank_extendedBoolean_of_error {e : Query.QueryError} (h : compiler.compile query = .error e) :
    (Model.extendedBoolean compiler).rank corpus query = .error (.invalidQuery e) := by
  simp only [rank, h, Except.map, Except.mapError]

end Model

end DocSearch
