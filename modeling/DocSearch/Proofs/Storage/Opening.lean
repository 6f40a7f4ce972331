import DocSearch.Proofs.Index.Construction
import DocSearch.Proofs.Storage.Agreement

/-!
# Opening an index

A corpus is built once and found in the store from then on. All that a corpus holds besides its
snapshot is made again when it is restored, and comes out as it was (`ofSnapshot_snapshot`). What
opening comes to is said for every store whose loads and saves succeed (`Dependable.opensOnce`), and
an index in memory and one in files are two of these (`memory_and_files_open_once`).
-/

namespace DocSearch

namespace Corpus

variable {α : Type} [Scalar α] {ds : List Document} {c : Corpus α} {s : Snapshot}

/-! ## Restored corpora -/

/-- Building is restoring what the documents say. -/
lemma build_eq_ofSnapshot (ds : List Document) : (build ds : Except Error (Corpus α)) =
    ofSnapshot ⟨(TermIndex.addDocuments {} ds).1, ds, (TermIndex.addDocuments {} ds).2⟩ := rfl

/-- A restored corpus has the snapshot that it was restored from. -/
theorem snapshot_of_ofSnapshot (h : ofSnapshot s = .ok c) : c.snapshot = s := by
  obtain ⟨store, hstore, rfl⟩ := map_eq_ok_iff.1 h
  obtain ⟨table, -, rfl⟩ := map_eq_ok_iff.1 hstore
  rfl

/-- A corpus is restored from its snapshot, with all that the snapshot does not hold. -/
theorem ofSnapshot_snapshot (h : build ds = .ok c) : ofSnapshot c.snapshot = .ok c := by
  rw [build_eq_ofSnapshot] at h
  rwa [snapshot_of_ofSnapshot h]

lemma documents_of_ofSnapshot (h : ofSnapshot s = .ok c) :
    DocumentStore.ofLists s.documents s.vectors = .ok c.documents := by
  obtain ⟨store, hstore, rfl⟩ := map_eq_ok_iff.1 h
  exact hstore

/-- A restored corpus has the documents of the snapshot. -/
lemma isSome_document?_iff (h : ofSnapshot s = .ok c) {id : DocId} :
    (c.document? id).isSome ↔ id ∈ s.documents.map Document.id :=
  DocumentStore.isSome_get?_iff (documents_of_ofSnapshot h)

lemma exists_ofSnapshot (hids : (s.documents.map Document.id).Nodup) :
    ∃ c : Corpus α, ofSnapshot s = .ok c ∧ c.snapshot = s := by
  obtain ⟨store, hstore⟩ := DocumentStore.exists_ofLists hids s.vectors
  have h : ofSnapshot s = .ok (assemble s.index store : Corpus α) :=
    map_eq_ok_iff.2 ⟨store, hstore, rfl⟩
  exact ⟨_, h, snapshot_of_ofSnapshot h⟩

/-- A snapshot that repeats an id is not restored. -/
lemma exists_repeatsFirst (hids : ¬ (s.documents.map Document.id).Nodup) :
    ∃ d, RepeatsFirst s.documents d ∧
      (ofSnapshot s : Except Error (Corpus α)) = .error (.duplicateDocument d.id) := by
  cases h : (ofSnapshot s : Except Error (Corpus α)) with
  | ok c => exact absurd (DocumentStore.nodup_of_ofLists (documents_of_ofSnapshot h)) hids
  | error e =>
    obtain ⟨d, hd, rfl⟩ := DocumentStore.of_ofLists_eq_error (map_eq_error_iff.1 h)
    exact ⟨d, hd, rfl⟩

/-! ## Opening once -/

variable {σ : Type} [IndexStore σ] {store : σ} {old : Option Snapshot}
  {source : Except Error (List Document)}

/-- The outcomes of opening with several sources one after the other. -/
def openings (store : σ) : List (Except Error (List Document)) → List (Obtained σ α)
  | [] => []
  | source :: sources =>
    let o : Obtained σ α := obtain store source
    o :: openings o.store sources

lemma obtain_of_load (h : IndexStore.load store = .ok (some s)) :
    (obtain store source : Obtained σ α) = ⟨ofSnapshot s, store, false⟩ := by
  simp only [obtain, h]

lemma obtain_of_bind_error {e : Error} (h : IndexStore.load store = .ok none)
    (he : source.bind (build (α := α)) = .error e) :
    (obtain store source : Obtained σ α) = ⟨.error e, store, true⟩ := by
  simp only [obtain, h, he]

lemma obtain_of_save {after : σ} (h : IndexStore.load store = .ok none)
    (hbuild : source.bind build = .ok c)
    (hsave : IndexStore.save store c.snapshot = (.ok (), after)) :
    (obtain store source : Obtained σ α) = ⟨.ok c, after, true⟩ := by
  simp only [obtain, h, hbuild, saveTo, hsave, Except.map]

/-- The loads and saves of stores that hold something succeed, if what is saved fits. -/
structure Dependable (Holds : σ → Option Snapshot → Prop) (Fits : Snapshot → Prop) : Prop where
  load : ∀ {store : σ} {old : Option Snapshot}, Holds store old → IndexStore.load store = .ok old
  save : ∀ {store : σ} {old : Option Snapshot} {s : Snapshot}, Holds store old → Fits s →
    ∃ after, IndexStore.save store s = (.ok (), after) ∧ Holds after (some s)

/-- What opening with a store comes to that holds `old`. -/
structure OpensOnce (α : Type) [Scalar α] (Holds : σ → Option Snapshot → Prop)
    (Fits : Snapshot → Prop) (store : σ) (old : Option Snapshot) : Prop where
  /-- A snapshot is restored; the source is not used. -/
  restores : ∀ s, old = some s → ∀ source,
    (obtain store source : Obtained σ α) = ⟨ofSnapshot s, store, false⟩
  /-- A snapshot whose ids differ can be restored. -/
  restored : ∀ s, old = some s → (s.documents.map Document.id).Nodup →
    ∃ c : Corpus α, ofSnapshot s = .ok c ∧ c.snapshot = s
  /-- A snapshot that repeats an id is an error. -/
  notRestored : ∀ s, old = some s → ¬ (s.documents.map Document.id).Nodup →
    ∃ d, RepeatsFirst s.documents d ∧
      (ofSnapshot s : Except Error (Corpus α)) = .error (.duplicateDocument d.id)
  /-- Without a snapshot the corpus of the source is built and saved, and all who open the store
  from then on get the same corpus, whatever their sources. -/
  builds : old = none → ∀ ds, (ds.map Document.id).Nodup →
    ∃ c : Corpus α, build ds = .ok c ∧ (Fits c.snapshot →
      ∃ after, obtain store (.ok ds) = ⟨.ok c, after, true⟩ ∧ Holds after (some c.snapshot) ∧
        ∀ later, Holds later (some c.snapshot) → ∀ sources, ∀ o ∈ openings later sources,
          o = (⟨.ok c, later, false⟩ : Obtained σ α))
  /-- Documents that repeat an id are an error and are not saved. -/
  notBuilt : old = none → ∀ ds, ¬ (ds.map Document.id).Nodup →
    ∃ d, RepeatsFirst ds d ∧
      (obtain store (.ok ds) : Obtained σ α) = ⟨.error (.duplicateDocument d.id), store, true⟩
  /-- The error of the source is that of opening. -/
  fails : old = none → ∀ e,
    (obtain store (.error e) : Obtained σ α) = ⟨.error e, store, true⟩

section Dependable

variable {Holds : σ → Option Snapshot → Prop} {Fits : Snapshot → Prop}

/-- A store is not changed any more once it holds the corpus. -/
lemma Dependable.openings_eq (h : Dependable Holds Fits) (hc : build ds = .ok c)
    (hstore : Holds store (some c.snapshot)) (sources : List (Except Error (List Document))) :
    ∀ o ∈ openings store sources, o = (⟨.ok c, store, false⟩ : Obtained σ α) := by
  induction sources with
  | nil => exact fun o ho => absurd ho List.not_mem_nil
  | cons source sources ih =>
    have hfirst : (obtain store source : Obtained σ α) = ⟨.ok c, store, false⟩ := by
      rw [obtain_of_load (h.load hstore), ofSnapshot_snapshot hc]
    rw [openings, hfirst]
    exact List.forall_mem_cons.2 ⟨rfl, ih⟩

/-- **A corpus is built once.** -/
theorem Dependable.opensOnce (h : Dependable Holds Fits) (hstore : Holds store old) :
    OpensOnce α Holds Fits store old where
  restores := by
    rintro s rfl source
    exact obtain_of_load (h.load hstore)
  restored := fun s _ hids => exists_ofSnapshot hids
  notRestored := fun s _ hids => exists_repeatsFirst hids
  builds := by
    rintro rfl ds hids
    obtain ⟨c, hc⟩ : ∃ c : Corpus α, build ds = .ok c := exists_build hids
    refine ⟨c, hc, fun hfits => ?_⟩
    obtain ⟨after, hafter, hholds⟩ := h.save hstore hfits
    exact ⟨after, obtain_of_save (h.load hstore) hc hafter, hholds,
      fun later hlater => h.openings_eq hc hlater⟩
  notBuilt := by
    rintro rfl ds hids
    obtain ⟨e, he⟩ := (exists_build_eq_error_iff (α := α)).2 hids
    obtain ⟨d, hd, rfl⟩ := of_build_eq_error he
    exact ⟨d, hd, obtain_of_bind_error (h.load hstore) he⟩
  fails := by
    rintro rfl e
    exact obtain_of_bind_error (h.load hstore) rfl

end Dependable

/-! ## Stores in memory and in files -/

/-- The index in memory holds `old`. -/
def HoldsInMemory (m : MemoryIndex) (old : Option Snapshot) : Prop := m.saved = old

lemma dependable_memory : Dependable HoldsInMemory fun _ => True where
  load := fun h => congrArg Except.ok h
  save := fun _ _ => ⟨_, rfl, rfl⟩

lemma dependable_files : Dependable IndexFiles.Faultless Layout.Storable where
  load := fun h => h.load
  save := by
    intro f old s h hs
    obtain ⟨u, hu, hfaultless, -⟩ := h.savable.save hs (.refl _)
    exact ⟨_, hu, hfaultless⟩

/-- **Opening builds once, in memory and in files.** In every state of an index in memory and in
every directory without faults, opening gives the corpus of the snapshot that is there, or else
builds that of the source and keeps it for all who come later; an error leaves the store as it was.
-/
theorem memory_and_files_open_once (α : Type) [Scalar α] (m : MemoryIndex) {f : IndexFiles}
    {old : Option Snapshot} (hf : f.Faultless old) :
    OpensOnce α HoldsInMemory (fun _ => True) m m.saved ∧
      OpensOnce α IndexFiles.Faultless Layout.Storable f old :=
  ⟨dependable_memory.opensOnce rfl, dependable_files.opensOnce hf⟩

open IndexFiles in
theorem vacant_opens_once :
    vacant.Faultless none ∧
      (obtain vacant (.ok (oneDocument.documents ++ oneDocument.documents)) :
        Obtained IndexFiles Binary64) = ⟨.error (.duplicateDocument 1), vacant, true⟩ ∧
      ∃ (c : Corpus Binary64) (after : IndexFiles),
        obtain vacant (.ok oneDocument.documents) = ⟨.ok c, after, true⟩ ∧
          after.load = .ok (some oneDocument) ∧
          (obtain after (.error .json) : Obtained IndexFiles Binary64) = ⟨.ok c, after, false⟩ := by
  have hvacant : vacant.Faultless none := fresh_vacant.faultless
  obtain ⟨-, hfiles⟩ := memory_and_files_open_once Binary64 {} hvacant
  refine ⟨hvacant, ?_, ?_⟩
  · obtain ⟨d, ⟨before, behind, hd, -⟩, herror⟩ :=
      hfiles.notBuilt rfl (oneDocument.documents ++ oneDocument.documents) (by decide)
    have hmem : d ∈ oneDocument.documents ++ oneDocument.documents := by
      rw [hd]
      exact List.mem_append_right before List.mem_cons_self
    have hid : ∀ d ∈ oneDocument.documents ++ oneDocument.documents, d.id = 1 := by decide
    rw [herror, hid d hmem]
  · obtain ⟨c, hc, hbuilds⟩ := hfiles.builds rfl oneDocument.documents (by decide)
    have hsnapshot : c.snapshot = oneDocument := by
      rw [build_eq_ofSnapshot] at hc
      exact snapshot_of_ofSnapshot hc
    rw [hsnapshot] at hbuilds
    obtain ⟨after, hafter, hholds, hlater⟩ := hbuilds storable_oneDocument
    exact ⟨c, after, hafter, hholds.load, hlater after hholds [.error .json] _ List.mem_cons_self⟩

end Corpus

end DocSearch
