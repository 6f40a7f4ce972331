import DocSearch.Proofs.Index.Construction
import DocSearch.Proofs.Ranking.Rearrangement

/-!
# Positions within bounds

A document store looks a document up by its position in three arrays, one of the documents, one of
their vectors and one of the highest counts. Only the length of the first is known to fit: the
positions are those of the documents, so they are within the bounds of all three exactly if there
are at least as many vectors as documents (`DocumentStore.inBounds_iff`), as in every corpus that is
built (`Corpus.inBounds_of_build`).

Whatever a corpus is asked for goes through these look-ups. If all positions are within bounds, no
answer depends on what would stand behind the end of the vectors and counts
(`Corpus.answersAlike_withBeyond`). Otherwise there is a document that is looked up there
(`DocumentStore.exists_beyond`), and the answers do depend on it
(`Corpus.inBounds_of_answersAlike`).
-/

namespace DocSearch

namespace DocumentStore

variable {ds : List Document} {vs : List TermVector} {s : DocumentStore} {id : DocId}

/-- All positions of a store are within the bounds of its arrays. -/
structure InBounds (s : DocumentStore) : Prop where
  documents : ∀ (id : DocId) (i : Nat), s.positions[id]? = some i → i < s.documents.size
  vectors : ∀ (id : DocId) (i : Nat), s.positions[id]? = some i → i < s.vectors.size
  maxCounts : ∀ (id : DocId) (i : Nat), s.positions[id]? = some i → i < s.maxCounts.size

lemma sizes_of_ofLists (h : ofLists ds vs = .ok s) :
    s.documents.size = ds.length ∧ s.vectors.size = vs.length ∧ s.maxCounts.size = vs.length := by
  obtain ⟨table, -, rfl⟩ := map_eq_ok_iff.1 h
  simp

/-- Positions are always within the bounds of the documents. -/
lemma lt_length_of_positions (h : ofLists ds vs = .ok s) {i : Nat}
    (hi : s.positions[id]? = some i) : i < ds.length := by
  obtain ⟨d, hd, -⟩ := (positions_eq_some_iff h).1 hi
  exact (List.getElem?_eq_some_iff.1 hd).1

/-- A document without a vector is looked up behind the end of the vectors and counts. -/
lemma exists_beyond (h : ofLists ds vs = .ok s) (hlt : vs.length < ds.length) :
    ∃ d, ds[vs.length]? = some d ∧ s.get? d.id = some d ∧
      s.positions[d.id]? = some s.vectors.size ∧ s.positions[d.id]? = some s.maxCounts.size := by
  obtain ⟨-, hvectors, hmaxCounts⟩ := sizes_of_ofLists h
  have hd : ds[vs.length]? = some ds[vs.length] := List.getElem?_eq_getElem hlt
  have hposition := positions_of_ofLists h hd
  refine ⟨_, hd, get?_of_ofLists h (List.getElem_mem hlt), ?_, ?_⟩
  · rw [hvectors, hposition]
  · rw [hmaxCounts, hposition]

/-- All positions are within bounds exactly if there are enough vectors. -/
theorem inBounds_iff (h : ofLists ds vs = .ok s) : s.InBounds ↔ ds.length ≤ vs.length := by
  obtain ⟨hdocuments, hvectors, hmaxCounts⟩ := sizes_of_ofLists h
  constructor
  · intro hbounds
    refine Nat.le_of_not_lt fun hlt => ?_
    obtain ⟨d, -, -, hposition, -⟩ := exists_beyond h hlt
    exact Nat.lt_irrefl _ (hbounds.vectors d.id _ hposition)
  · intro hle
    constructor
    case documents => exact fun id i hi => hdocuments ▸ lt_length_of_positions h hi
    case vectors =>
      exact fun id i hi => hvectors ▸ Nat.lt_of_lt_of_le (lt_length_of_positions h hi) hle
    case maxCounts =>
      exact fun id i hi => hmaxCounts ▸ Nat.lt_of_lt_of_le (lt_length_of_positions h hi) hle

/-! ## Behind the end -/

/-- The store with something behind the end of the vectors and of the highest counts. -/
def withBeyond (s : DocumentStore) (vectors : Array TermVector) (maxCounts : Array UInt32) :
    DocumentStore :=
  { s with vectors := s.vectors ++ vectors, maxCounts := s.maxCounts ++ maxCounts }

variable {more : Array TermVector} {counts : Array UInt32}

lemma InBounds.vector?_withBeyond (h : s.InBounds) (id : DocId) :
    (s.withBeyond more counts).vector? id = s.vector? id := by
  cases hi : s.positions[id]? with
  | none => simp [vector?, withBeyond, hi]
  | some i => simp [vector?, withBeyond, hi, Array.getElem?_append_left (h.vectors id i hi)]

lemma InBounds.maxCount_withBeyond (h : s.InBounds) (id : DocId) :
    (s.withBeyond more counts).maxCount id = s.maxCount id := by
  cases hi : s.positions[id]? with
  | none => simp [maxCount, withBeyond, hi]
  | some i => simp [maxCount, withBeyond, hi, Array.getElem?_append_left (h.maxCounts id i hi)]

lemma InBounds.frequency_withBeyond (h : s.InBounds) (t : TermId) (id : DocId) :
    (s.withBeyond more counts).frequency t id = s.frequency t id := by
  rw [frequency, frequency, h.vector?_withBeyond]

lemma entries_withBeyond (hle : s.documents.size ≤ s.vectors.size) :
    (s.withBeyond more counts).entries = s.entries := by
  refine List.ext_getElem? fun i => Option.ext fun ⟨d, v⟩ => ?_
  simp only [entries, withBeyond, Array.toList_append, List.getElem?_zip_eq_some]
  refine and_congr_right fun hd => ?_
  have hi : i < s.documents.toList.length := (List.getElem?_eq_some_iff.1 hd).1
  rw [List.getElem?_append_left (Nat.lt_of_lt_of_le hi hle)]

end DocumentStore

/-! ## Answers -/

namespace Corpus

variable {α : Type} [Scalar α] {c : Corpus α} {more : Array TermVector} {counts : Array UInt32}

/-- Two corpora answer alike to all that is looked up of a document and of its terms, to all
queries and to questions for similar documents. -/
structure AnswersAlike (c c' : Corpus α) : Prop where
  document? : ∀ id, c.document? id = c'.document? id
  vector? : ∀ id, c.documents.vector? id = c'.documents.vector? id
  frequency : ∀ t id, c.documents.frequency t id = c'.documents.frequency t id
  maxCount : ∀ id, c.documents.maxCount id = c'.documents.maxCount id
  tf : ∀ t id, c.tf t id = c'.tf t id
  rank : ∀ (m : Model α) query, m.rank c query = m.rank c' query
  similarity : ∀ (r : Recommender α) a b,
    ({ r with corpus := c } : Recommender α).similarity a b =
      ({ r with corpus := c' } : Recommender α).similarity a b

omit [Scalar α] in
/-- The corpus with something behind the end of the vectors and of the highest counts. -/
def withBeyond (c : Corpus α) (vectors : Array TermVector) (maxCounts : Array UInt32) : Corpus α :=
  { c with documents := c.documents.withBeyond vectors maxCounts }

lemma tf_withBeyond (h : c.documents.InBounds) (t : TermId) (id : DocId) :
    (c.withBeyond more counts).tf t id = c.tf t id := by
  simp only [Corpus.tf, withBeyond, h.maxCount_withBeyond, h.frequency_withBeyond]

lemma boolean_rank_withBeyond (hle : c.documents.documents.size ≤ c.documents.vectors.size)
    (q : Query.Dnf) : Boolean.rank (c.withBeyond more counts) q = Boolean.rank c q := by
  simp only [Boolean.rank, withBeyond, DocumentStore.entries_withBeyond hle]

lemma extendedBoolean_rank_withBeyond (h : c.documents.InBounds) (q : Query.Dnf) :
    ExtendedBoolean.rank (c.withBeyond more counts) q = ExtendedBoolean.rank c q := by
  have hterm : ∀ id token, ExtendedBoolean.termWeight (c.withBeyond more counts) id token =
      ExtendedBoolean.termWeight c id token := by
    intro id token
    simp only [ExtendedBoolean.termWeight, tf_withBeyond h]
    rfl
  have hweight : ∀ id, ExtendedBoolean.weight (c.withBeyond more counts) id q =
      ExtendedBoolean.weight c id q := fun id => ExtendedBoolean.weight_congr (hterm id) q
  simp only [ExtendedBoolean.rank, hweight]
  rfl

lemma vector_rank_withBeyond (h : c.documents.InBounds) (p : Vector.Params α) (query : TermVector) :
    Vector.rank (c.withBeyond more counts) p query = Vector.rank c p query := by
  have hsimilarity : ∀ id weights, Vector.similarity (c.withBeyond more counts) id weights =
      Vector.similarity c id weights := by
    intro id weights
    simp only [Vector.similarity, Vector.documentWeight, tf_withBeyond h]
    rfl
  simp only [Vector.rank, hsimilarity]
  rfl

variable {ds : List Document} {vs : List TermVector}

/-- The positions of a corpus that is built from documents are within bounds. -/
lemma inBounds_of_build (h : build ds = .ok c) : c.documents.InBounds :=
  (DocumentStore.inBounds_iff (documents_of_build h)).2 (by rw [List.length_map])

/-- If all positions are within bounds, nothing that stands behind the end has a part in any
answer. -/
theorem answersAlike_withBeyond (hc : DocumentStore.ofLists ds vs = .ok c.documents)
    (h : c.documents.InBounds) (more : Array TermVector) (counts : Array UInt32) :
    AnswersAlike (c.withBeyond more counts) c where
  document? _ := rfl
  vector? := h.vector?_withBeyond
  frequency := h.frequency_withBeyond
  maxCount := h.maxCount_withBeyond
  tf := tf_withBeyond h
  rank m query := by
    have hle : c.documents.documents.size ≤ c.documents.vectors.size := by
      obtain ⟨hdocuments, hvectors, -⟩ := DocumentStore.sizes_of_ofLists hc
      rw [hdocuments, hvectors]
      exact (DocumentStore.inBounds_iff hc).1 h
    cases m with
    | boolean compiler =>
      have hrank : Boolean.rank (c.withBeyond more counts) = Boolean.rank c :=
        funext (boolean_rank_withBeyond hle)
      simp only [Model.rank, hrank]
    | extendedBoolean compiler =>
      have hrank : ExtendedBoolean.rank (c.withBeyond more counts) = ExtendedBoolean.rank c :=
        funext (extendedBoolean_rank_withBeyond h)
      simp only [Model.rank, hrank]
    | vector analyzer p =>
      simp only [Model.rank, vector_rank_withBeyond h]
      rfl
  similarity r a b := by
    simp only [Recommender.similarity, withBeyond, h.vector?_withBeyond]

/-- If some position is not within bounds, what stands behind the end has a part in the answers. -/
lemma inBounds_of_answersAlike (hc : DocumentStore.ofLists ds vs = .ok c.documents)
    (h : ∀ more counts, AnswersAlike (c.withBeyond more counts) c) : c.documents.InBounds := by
  refine (DocumentStore.inBounds_iff hc).2 (Nat.le_of_not_lt fun hlt => ?_)
  obtain ⟨d, -, -, hposition, -⟩ := DocumentStore.exists_beyond hc hlt
  have hvector := (h #[∅] #[]).vector? d.id
  simp [DocumentStore.vector?, withBeyond, DocumentStore.withBeyond, hposition] at hvector

end Corpus

end DocSearch
