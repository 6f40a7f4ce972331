import DocSearch.Proofs.Index.Corpus

/-!
# Positions of documents

Documents can be placed exactly if no two of them have the same id; otherwise the first one that
repeats an id is named (`DocumentStore.of_place_eq_error`). A table of placed documents gives for
every id the position of the document that has it and nothing for other ids
(`DocumentStore.getElem?_of_place`), so documents and vectors are found by id
(`DocumentStore.get?_of_ofLists`, `DocumentStore.vector?_of_ofLists`).
-/

namespace DocSearch

/-- The document `d` is the first of the list whose id stands in front of it. -/
def RepeatsFirst (ds : List Document) (d : Document) : Prop :=
  ∃ before behind, ds = before ++ d :: behind ∧ (before.map Document.id).Nodup ∧
    d.id ∈ before.map Document.id

lemma RepeatsFirst.not_nodup {ds : List Document} {d : Document} (h : RepeatsFirst ds d) :
    ¬ (ds.map Document.id).Nodup := by
  obtain ⟨before, behind, rfl, -, hmem⟩ := h
  intro hnodup
  rw [List.map_append, List.map_cons, List.nodup_append] at hnodup
  exact hnodup.2.2 d.id hmem d.id List.mem_cons_self rfl

namespace DocumentStore

lemma mem_insert_iff {table : Std.ExtTreeMap DocId Nat} {i j : DocId} {k : Nat} :
    j ∈ table.insert i k ↔ i = j ∨ j ∈ table := by
  simp [Std.ExtTreeMap.mem_insert]

/-- Placing fails at the first document whose id is in the table or stands in front of it. -/
lemma of_place_eq_error {e : Error} {ds : List Document} : ∀ {table : Std.ExtTreeMap DocId Nat}
    {i : Nat}, place table i ds = .error e →
      ∃ before d behind, ds = before ++ d :: behind ∧ (before.map Document.id).Nodup ∧
        (∀ b ∈ before, b.id ∉ table) ∧ (d.id ∈ table ∨ d.id ∈ before.map Document.id) ∧
        e = .duplicateDocument d.id := by
  induction ds with
  | nil =>
    intro table i h
    exact absurd h (by simp [place])
  | cons d ds ih =>
    intro table i h
    rw [place] at h
    split at h
    · next hd =>
      obtain rfl := Except.error.inj h
      exact ⟨[], d, ds, rfl, List.nodup_nil, by simp, Or.inl (Std.ExtTreeMap.contains_iff_mem.1 hd),
        rfl⟩
    · next hd =>
      rw [Std.ExtTreeMap.contains_iff_mem] at hd
      obtain ⟨before, c, behind, rfl, hnodup, hbefore, hc, rfl⟩ := ih h
      refine ⟨d :: before, c, behind, rfl, ?_, ?_, ?_, rfl⟩
      · rw [List.map_cons, List.nodup_cons]
        refine ⟨fun hmem => ?_, hnodup⟩
        obtain ⟨b, hb, hid⟩ := List.mem_map.1 hmem
        exact hbefore b hb (mem_insert_iff.2 (Or.inl hid.symm))
      · refine List.forall_mem_cons.2 ⟨hd, fun b hb hmem => ?_⟩
        exact hbefore b hb (mem_insert_iff.2 (Or.inr hmem))
      · rw [List.map_cons, List.mem_cons]
        rcases hc with hc | hc
        · rcases mem_insert_iff.1 hc with hid | hold
          · exact Or.inr (Or.inl hid.symm)
          · exact Or.inl hold
        · exact Or.inr (Or.inr hc)

/-- What a table of placed documents says of every id. -/
lemma getElem?_of_place {ds : List Document} : ∀ {table table' : Std.ExtTreeMap DocId Nat}
    {i : Nat}, place table i ds = .ok table' → (ds.map Document.id).Nodup ∧
      (∀ d ∈ ds, d.id ∉ table) ∧ (∀ k d, ds[k]? = some d → table'[d.id]? = some (i + k)) ∧
      ∀ id, id ∉ ds.map Document.id → table'[id]? = table[id]? := by
  induction ds with
  | nil =>
    intro table table' i h
    obtain rfl := Except.ok.inj h
    simp
  | cons d ds ih =>
    intro table table' i h
    rw [place] at h
    split at h
    · exact absurd h (by simp)
    · next hd =>
      rw [Std.ExtTreeMap.contains_iff_mem] at hd
      obtain ⟨hnodup, hnew, hplaced, hother⟩ := ih h
      have hfresh : d.id ∉ ds.map Document.id := fun hmem => by
        obtain ⟨b, hb, hid⟩ := List.mem_map.1 hmem
        exact hnew b hb (mem_insert_iff.2 (Or.inl hid.symm))
      refine ⟨List.nodup_cons.2 ⟨hfresh, hnodup⟩, ?_, ?_, ?_⟩
      · refine List.forall_mem_cons.2 ⟨hd, fun b hb hmem => ?_⟩
        exact hnew b hb (mem_insert_iff.2 (Or.inr hmem))
      · rintro (_ | k) c hc
        · obtain rfl := Option.some.inj hc
          rw [hother d.id hfresh, Std.ExtTreeMap.getElem?_insert_self, Nat.add_zero]
        · rw [hplaced k c hc, Nat.add_assoc, Nat.add_comm 1]
      · intro id hid
        rw [List.map_cons, List.mem_cons, not_or] at hid
        rw [hother id hid.2, Std.ExtTreeMap.getElem?_insert, if_neg]
        simpa using fun heq => hid.1 (Eq.symm heq)

variable {ds : List Document} {vs : List TermVector} {s : DocumentStore}

/-- Making a store fails only because a document repeats an id, and names the first one. -/
theorem of_ofLists_eq_error {e : Error} (h : ofLists ds vs = .error e) :
    ∃ d, RepeatsFirst ds d ∧ e = .duplicateDocument d.id := by
  obtain ⟨before, d, behind, rfl, hnodup, -, hd, rfl⟩ :=
    of_place_eq_error (map_eq_error_iff.1 h)
  exact ⟨d, ⟨before, behind, rfl, hnodup, hd.resolve_left (by simp)⟩, rfl⟩

lemma nodup_of_ofLists (h : ofLists ds vs = .ok s) : (ds.map Document.id).Nodup := by
  obtain ⟨table, htable, -⟩ := map_eq_ok_iff.1 h
  exact (getElem?_of_place htable).1

lemma size_of_ofLists (h : ofLists ds vs = .ok s) : s.size = ds.length := by
  obtain ⟨table, -, rfl⟩ := map_eq_ok_iff.1 h
  exact List.size_toArray

/-- A store knows the positions of its documents. -/
lemma positions_of_ofLists (h : ofLists ds vs = .ok s) {k : Nat} {d : Document}
    (hd : ds[k]? = some d) : s.positions[d.id]? = some k := by
  obtain ⟨table, htable, rfl⟩ := map_eq_ok_iff.1 h
  have hk := (getElem?_of_place htable).2.2.1 k d hd
  rwa [Nat.zero_add] at hk

/-- A position is that of the document there, and unknown ids have none. -/
lemma positions_eq_some_iff (h : ofLists ds vs = .ok s) {id : DocId} {k : Nat} :
    s.positions[id]? = some k ↔ ∃ d, ds[k]? = some d ∧ d.id = id := by
  constructor
  · intro hk
    by_cases hid : id ∈ ds.map Document.id
    · obtain ⟨d, hd, rfl⟩ := List.mem_map.1 hid
      obtain ⟨j, hj⟩ := List.getElem?_of_mem hd
      obtain rfl := Option.some.inj ((positions_of_ofLists h hj).symm.trans hk)
      exact ⟨d, hj, rfl⟩
    · obtain ⟨table, htable, rfl⟩ := map_eq_ok_iff.1 h
      have hnone := (getElem?_of_place htable).2.2.2 id hid
      exact absurd (hnone.symm.trans hk) (by simp)
  · rintro ⟨d, hd, rfl⟩
    exact positions_of_ofLists h hd

lemma ids_of_ofLists (h : ofLists ds vs = .ok s) : s.ids = ds.map Document.id := by
  obtain ⟨table, -, rfl⟩ := map_eq_ok_iff.1 h
  rfl

lemma nodup_ids (h : ofLists ds vs = .ok s) : s.ids.Nodup :=
  ids_of_ofLists h ▸ nodup_of_ofLists h

/-- A vector is found by the id of the document that it stands beside. -/
lemma vector?_eq_some_iff (h : ofLists ds vs = .ok s) {id : DocId} {v : TermVector} :
    s.vector? id = some v ↔ ∃ d, (d, v) ∈ s.entries ∧ d.id = id := by
  have hvectors : s.vectors = vs.toArray := by
    obtain ⟨table, -, rfl⟩ := map_eq_ok_iff.1 h
    rfl
  rw [vector?, entries_of_ofLists h, hvectors, Option.bind_eq_some_iff]
  simp only [positions_eq_some_iff h, List.getElem?_toArray, List.mem_iff_getElem?,
    List.getElem?_zip_eq_some]
  constructor
  · rintro ⟨k, ⟨d, hd, hid⟩, hv⟩
    exact ⟨d, ⟨k, hd, hv⟩, hid⟩
  · rintro ⟨d, ⟨k, hd, hv⟩, hid⟩
    exact ⟨k, ⟨d, hd, hid⟩, hv⟩

lemma map_fst_entries (h : ofLists ds vs = .ok s) (hvectors : ds.length = vs.length) :
    s.entries.map Prod.fst = ds := by
  rw [entries_of_ofLists h]
  exact List.map_fst_zip (Nat.le_of_eq hvectors)

/-- If there are as many vectors as documents, every document has one. -/
lemma exists_vector?_iff (h : ofLists ds vs = .ok s) (hvectors : ds.length = vs.length)
    {id : DocId} : (∃ v, s.vector? id = some v) ↔ id ∈ s.ids := by
  simp only [vector?_eq_some_iff h, ids_of_ofLists h, ← map_fst_entries h hvectors, List.mem_map,
    Prod.exists, exists_and_right, exists_eq_right]
  constructor
  · rintro ⟨v, d, hentry, hid⟩
    exact ⟨d, ⟨v, hentry⟩, hid⟩
  · rintro ⟨d, ⟨v, hentry⟩, hid⟩
    exact ⟨v, d, hentry, hid⟩

/-- A document is found by its id. -/
theorem get?_of_ofLists (h : ofLists ds vs = .ok s) {d : Document} (hd : d ∈ ds) :
    s.get? d.id = some d := by
  obtain ⟨k, hk⟩ := List.getElem?_of_mem hd
  have hpos := positions_of_ofLists h hk
  obtain ⟨table, -, rfl⟩ := map_eq_ok_iff.1 h
  rw [get?, hpos, Option.bind_some]
  simpa using hk

/-- Exactly the ids of the documents are found. -/
lemma isSome_get?_iff (h : ofLists ds vs = .ok s) {id : DocId} :
    (s.get? id).isSome ↔ id ∈ ds.map Document.id := by
  constructor
  · intro hsome
    refine Decidable.byContradiction fun hid => ?_
    obtain ⟨table, htable, rfl⟩ := map_eq_ok_iff.1 h
    have hnone := (getElem?_of_place htable).2.2.2 id hid
    rw [get?, hnone] at hsome
    simp at hsome
  · intro hid
    obtain ⟨d, hd, rfl⟩ := List.mem_map.1 hid
    rw [get?_of_ofLists h hd]
    rfl

/-- Found are documents of the list. -/
lemma mem_of_get? (h : ofLists ds vs = .ok s) {id : DocId} {d : Document}
    (hd : s.get? id = some d) : d ∈ ds := by
  obtain ⟨k, -, hk⟩ := Option.bind_eq_some_iff.1 hd
  obtain ⟨table, -, rfl⟩ := map_eq_ok_iff.1 h
  exact List.mem_of_getElem? (by simpa using hk)

/-- All documents of a list of ids are found, in the order of the list. -/
lemma map_id_filterMap_get? (h : ofLists ds vs = .ok s) {ids : List DocId}
    (hids : ∀ id ∈ ids, id ∈ s.ids) : (ids.filterMap s.get?).map Document.id = ids := by
  induction ids with
  | nil => rfl
  | cons id ids ih =>
    obtain ⟨hid, htail⟩ := List.forall_mem_cons.1 hids
    rw [ids_of_ofLists h] at hid
    obtain ⟨d, hd, rfl⟩ := List.mem_map.1 hid
    rw [List.filterMap_cons_some (get?_of_ofLists h hd), List.map_cons, ih htail]

/-- The vector of a document is found by the document's id. -/
theorem vector?_of_ofLists {f : Document → TermVector} (h : ofLists ds (ds.map f) = .ok s)
    {d : Document} (hd : d ∈ ds) : s.vector? d.id = some (f d) := by
  obtain ⟨k, hk⟩ := List.getElem?_of_mem hd
  have hpos := positions_of_ofLists h hk
  obtain ⟨table, -, rfl⟩ := map_eq_ok_iff.1 h
  rw [vector?, hpos, Option.bind_some]
  simp [hk]

end DocumentStore

end DocSearch
