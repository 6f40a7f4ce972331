import DocSearch.Index.Corpus
import DocSearch.Proofs.Basic
import DocSearch.Proofs.Index.TermIndex

/-!
# Building a corpus

Documents with distinct ids make a corpus (`Corpus.exists_build`). Its index knows all of their
tokens, has dictionary and terms inverse to each other as long as the ids suffice, and gives for the
tokens of each document the vector that is stored with it (`Corpus.entries_of_build`).
-/

namespace DocSearch

namespace DocumentStore

/-- Documents can be placed if their ids are distinct and not in the table yet. -/
lemma exists_place {ds : List Document} (hids : (ds.map Document.id).Nodup) :
    ∀ (table : Std.ExtTreeMap DocId Nat) (i : Nat), (∀ d ∈ ds, d.id ∉ table) →
      ∃ table', place table i ds = .ok table' := by
  induction ds with
  | nil => exact fun table i _ => ⟨table, rfl⟩
  | cons d ds ih =>
    intro table i hnew
    obtain ⟨hd, hds⟩ := List.nodup_cons.1 hids
    have hfresh : table.contains d.id = false := by
      rw [← Bool.not_eq_true, Std.ExtTreeMap.contains_iff_mem]
      exact hnew d List.mem_cons_self
    rw [place, if_neg (by simp [hfresh])]
    refine ih hds _ _ ?_
    intro e he hmem
    rcases Std.ExtTreeMap.mem_insert.1 hmem with heq | hold
    · have hid : d.id = e.id := Std.LawfulEqOrd.eq_of_compare heq
      exact hd (hid ▸ List.mem_map_of_mem he)
    · exact hnew e (List.mem_cons_of_mem d he) hold

lemma exists_ofLists {ds : List Document} (hids : (ds.map Document.id).Nodup)
    (vs : List TermVector) : ∃ s, ofLists ds vs = .ok s := by
  obtain ⟨table, htable⟩ := exists_place hids ∅ 0 (by simp)
  exact ⟨_, map_eq_ok_iff.2 ⟨table, htable, rfl⟩⟩

lemma entries_of_ofLists {ds : List Document} {vs : List TermVector} {s : DocumentStore}
    (h : ofLists ds vs = .ok s) : s.entries = ds.zip vs := by
  obtain ⟨table, -, rfl⟩ := map_eq_ok_iff.1 h
  rfl

end DocumentStore

namespace Corpus

variable {α : Type} [Scalar α] {ds : List Document} {c : Corpus α}

/-- Documents with distinct ids make a corpus. -/
theorem exists_build (hids : (ds.map Document.id).Nodup) : ∃ c : Corpus α, build ds = .ok c := by
  obtain ⟨s, hs⟩ := DocumentStore.exists_ofLists hids (TermIndex.addDocuments {} ds).2
  exact ⟨_, map_eq_ok_iff.2 ⟨s, hs, rfl⟩⟩

lemma index_of_build (h : build ds = .ok c) : c.index = (TermIndex.addDocuments {} ds).1 := by
  obtain ⟨s, -, rfl⟩ := map_eq_ok_iff.1 h
  rfl

/-- The documents stand side by side with the vectors that the index gives for their tokens. -/
theorem entries_of_build (h : build ds = .ok c) :
    c.documents.entries = ds.map fun d => (d, c.index.bagOfWords d.tokens) := by
  have hindex := index_of_build h
  obtain ⟨s, hs, rfl⟩ := map_eq_ok_iff.1 h
  have hvectors : (TermIndex.addDocuments {} ds).2 =
      ds.map fun d => (TermIndex.addDocuments {} ds).1.bagOfWords d.tokens :=
    TermIndex.addDocuments_vectors ds .refl
  rw [hindex]
  show s.entries = _
  rw [DocumentStore.entries_of_ofLists hs, hvectors, List.map_prod_left_eq_zip]

/-- All tokens of the documents are in the index. -/
theorem knows_of_build (h : build ds = .ok c) : ∀ d ∈ ds, c.index.Knows d.tokens := by
  rw [index_of_build h]
  exact TermIndex.knows_addDocuments ds {}

/-- There are no more terms than tokens. -/
lemma size_index_le (h : build ds = .ok c) :
    c.index.size ≤ (ds.flatMap Document.tokens).length := by
  rw [index_of_build h]
  refine Nat.le_trans (TermIndex.size_addDocuments_le ds {}) (Nat.le_of_eq ?_)
  rw [TermIndex.size, Array.size_empty, Nat.zero_add]

/-- Dictionary and terms are inverse to each other if there are no more tokens than ids. -/
theorem invertible_of_build (h : build ds = .ok c)
    (hfew : (ds.flatMap Document.tokens).length ≤ UInt32.size) : c.index.Invertible := by
  have hsize := Nat.le_trans (size_index_le h) hfew
  rw [index_of_build h] at hsize ⊢
  exact (TermIndex.grows_addDocuments ds {}).invertible TermIndex.invertible_empty hsize

end Corpus

end DocSearch
