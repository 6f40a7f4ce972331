import DocSearch.Proofs.Storage.IndexHeader
import DocSearch.Proofs.Storage.Layout
import DocSearch.Proofs.Storage.Saving

/-!
# Interrupted saves

What is loaded from a directory after a save in it came to a halt depends on what the directory held
and on the number of completed steps (`Outcome`, `load_of_interrupted_save`).

Where there was no index, nothing is found until the header is made, and a header in part is an
error. Where there was one, its header stays while the other files are replaced. The old index is
lost with the first file that is emptied, and until the vectors are complete loading fails or gives
a mixture of both indexes, so an interrupted save is not harmless (`interrupted_save_breaks_index`).
-/

namespace DocSearch.IndexFiles

open SaveStep Layout

variable {f : IndexFiles} {t u : FileTree} {root : Path} {old : Option Snapshot} {s new : Snapshot}
  {entries : List (String × TermId)} {now : String} {k : Nat} {done : List SaveStep}

/-! ## The files of an index -/

/-- The files of a snapshot in the order in which they are written. -/
def files (entries : List (String × TermId)) (now : String) (s : Snapshot) :
    List (String × Bytes) :=
  [("dictionary.bin", indexArranged entries s.index),
    ("docs.bin", list document s.documents),
    ("vectors.bin", list vector s.vectors),
    ("meta.json", Bytes.ofText (headerOf s now).render)]

/-- Their names. -/
def names : List String := ["dictionary.bin", "docs.bin", "vectors.bin", "meta.json"]

lemma map_fst_files (entries : List (String × TermId)) (now : String) (s : Snapshot) :
    (files entries now s).map Prod.fst = names := rfl

/-- The steps of saving a snapshot, the dictionary in ascending order. -/
def steps (root : Path) (now : String) (s : Snapshot) : List SaveStep :=
  stepsArranged s.index.dictionary.toList root now s

lemma stepsArranged_eq : stepsArranged entries root now s =
    .createDirectories root :: putAll root (files entries now s) := rfl

lemma isName_of_mem_names : ∀ name ∈ names, FileTree.IsName name := by
  simp [names, FileTree.IsName]

lemma length_render_pos (h : IndexHeader) : 0 < (Bytes.ofText h.render).length := by
  refine List.length_pos_iff.2 fun hnil => ?_
  have hread := Bytes.text?_ofText h.render
  have hempty : Bytes.text? [] = some "" := Bytes.text?_ofText ""
  rw [hnil, hempty] at hread
  have hrender := h.toList_render
  rw [← Option.some.inj hread] at hrender
  exact absurd hrender (by simp)

lemma length_pos_of_mem_files (hs : Storable s) (hentries : entries.Perm s.index.dictionary.toList)
    {file : String × Bytes} (hfile : file ∈ files entries now s) : 0 < file.2.length := by
  simp only [files, List.mem_cons, List.not_mem_nil, or_false] at hfile
  obtain rfl | rfl | rfl | rfl := hfile
  · exact (reads_index hs.index hentries).length_pos rfl
  · exact (reads_documents hs).length_pos rfl
  · exact (reads_vectors hs).length_pos rfl
  · exact length_render_pos _

/-- A save that comes to a halt after its first step has made the directory, and every file has got
as far as the number of further steps says. -/
lemma exists_of_halted (hs : Storable s) (hentries : entries.Perm s.index.dictionary.toList)
    (h : Halted (stepsArranged entries root now s) (k + 1) done)
    (hrun : performAll t done = (.ok (), u)) :
    k ≤ 8 ∧ ∃ v, t.createDirectories root = .ok v ∧
      ∀ i name content, (files entries now s)[i]? = some (name, content) →
        Reached content (v.read (root.join name)) (u.read (root.join name)) (k - 2 * i) := by
  rw [stepsArranged_eq] at h
  cases h with
  | later _ h =>
    obtain ⟨v, hv, hrun⟩ := performAll_cons.1 hrun
    refine ⟨h.le_length, v, hv, fun i name content => reached_of_halted ?_ ?_ h hrun⟩
    · rw [map_fst_files]
      decide
    · intro file hfile
      exact ⟨isName_of_mem_names _ (List.mem_map.2 ⟨file, hfile, rfl⟩),
        length_pos_of_mem_files hs hentries hfile⟩

/-! ## Loading -/

/-- A snapshot is complete in the directory. -/
structure Stores (f : IndexFiles) (s : Snapshot) : Prop where
  header : ∃ now, f.loadHeader = .ok (headerOf s now)
  index : f.loadFile readIndex (dictionaryFile f.root) = .ok s.index
  documents : f.loadFile (readList readDocument) (documentsFile f.root) = .ok s.documents
  vectors : f.loadFile (readList readVector) (vectorsFile f.root) = .ok s.vectors

lemma loadHeader_of_read {h : IndexHeader}
    (hread : f.tree.read (headerFile f.root) = .ok (Bytes.ofText h.render)) :
    f.loadHeader = .ok h := by
  simp only [loadHeader, hread, Except.mapError, Except.bind, h.ofBytes_render]

lemma loadHeader_congr (h : u.read (headerFile f.root) = f.tree.read (headerFile f.root)) :
    loadHeader { f with tree := u } = f.loadHeader :=
  congrArg (fun r => (r.mapError Error.io).bind IndexHeader.ofBytes) h

lemma loadFile_of_read {α : Type} {read : Reader α} {p : Path} {b : Bytes}
    (hread : f.tree.read p = .ok b) : f.loadFile read p = decode read b := by
  simp only [loadFile, hread, Except.mapError, Except.bind]

/-- A snapshot is read back from its files. -/
lemma stores_of_complete (hs : Storable s) (hentries : entries.Perm s.index.dictionary.toList)
    (h : Complete f.tree f.root (files entries now s)) : f.Stores s := by
  simp only [Complete, files, List.forall_mem_cons] at h
  obtain ⟨hdictionary, hdocuments, hvectors, hheader, -⟩ := h
  refine ⟨⟨now, loadHeader_of_read hheader⟩, ?_, ?_, ?_⟩
  · rw [dictionaryFile, loadFile_of_read hdictionary]
    exact (reads_index hs.index hentries).decode
  · rw [documentsFile, loadFile_of_read hdocuments]
    exact (reads_documents hs).decode
  · rw [vectorsFile, loadFile_of_read hvectors]
    exact (reads_vectors hs).decode

lemma load_of_loadHeader (h : f.loadHeader = .ok (headerOf s now)) :
    f.load = f.loadContent.map some := by
  rw [load, h]
  exact if_pos rfl

lemma Stores.load (h : f.Stores s) : f.load = .ok (some s) := by
  obtain ⟨⟨now, hheader⟩, hindex, hdocuments, hvectors⟩ := h
  rw [load_of_loadHeader hheader, loadContent, hindex, hdocuments, hvectors]
  rfl

/-- The parts of a snapshot that is loaded are read from their files. -/
lemma loadFile_of_load (h : f.load = .ok (some s)) :
    (∃ header, f.loadHeader = .ok header) ∧
      f.loadFile readIndex (dictionaryFile f.root) = .ok s.index ∧
      f.loadFile (readList readDocument) (documentsFile f.root) = .ok s.documents ∧
      f.loadFile (readList readVector) (vectorsFile f.root) = .ok s.vectors := by
  rw [IndexFiles.load] at h
  split at h
  · exact absurd h (by simp)
  · exact absurd h (by simp)
  · next header hheader =>
    split at h
    · obtain ⟨s', hcontent, hs⟩ := map_eq_ok_iff.1 h
      obtain ⟨index, hindex, hcontent⟩ := bind_eq_ok_iff.1 hcontent
      obtain ⟨documents, hdocuments, hcontent⟩ := bind_eq_ok_iff.1 hcontent
      obtain ⟨vectors, hvectors, hcontent⟩ := bind_eq_ok_iff.1 hcontent
      obtain rfl := Option.some.inj hs
      obtain rfl := Except.ok.inj hcontent
      exact ⟨⟨header, hheader⟩, hindex, hdocuments, hvectors⟩
    · exact absurd h (by simp)

lemma load_of_absent (h : f.tree.read (headerFile f.root) = .error .notFound) :
    f.load = .ok none := by
  simp only [load, loadHeader, h, Except.mapError, Except.bind]

lemma load_of_header_error {b : Bytes} {e : Error} (hread : f.tree.read (headerFile f.root) = .ok b)
    (hb : IndexHeader.ofBytes b = .error e) (he : e = .json ∨ e = .io .notText) :
    f.load = .error e := by
  have hheader : f.loadHeader = .error e := by
    simp only [loadHeader, hread, Except.mapError, Except.bind, hb]
  obtain rfl | rfl := he
  · simp only [load, hheader]
  · simp only [load, hheader]

/-! ## What a directory holds -/

/-- What a directory holds. -/
inductive Holds (f : IndexFiles) : Option Snapshot → Prop
  /-- There is no header, and there is none either when the directory is made. -/
  | nothing (habsent : f.tree.read (headerFile f.root) = .error .notFound)
      (hmade : ∀ t, f.tree.createDirectories f.root = .ok t →
        t.read (headerFile f.root) = .error .notFound) : Holds f none
  /-- The snapshot was saved there last. -/
  | saved {t : FileTree} {entries : List (String × TermId)} {now : String} {s : Snapshot}
      (hentries : entries.Perm s.index.dictionary.toList)
      (h : performAll t (stepsArranged entries f.root now s) = (.ok (), f.tree)) :
      Holds f (some s)

lemma Holds.complete (h : f.Holds (some s)) (hs : Storable s) :
    ∃ entries now, entries.Perm s.index.dictionary.toList ∧
      Complete f.tree f.root (files entries now s) := by
  cases h with
  | @saved _ entries now _ hentries h =>
    have hall : Halted (stepsArranged entries f.root now s) (8 + 1) _ := halted_all _
    obtain ⟨-, v, -, hreached⟩ := exists_of_halted hs hentries hall h
    exact ⟨entries, now, hentries, complete_of_reached (Nat.le_refl 8) hreached⟩

lemma Holds.stores (h : f.Holds (some s)) (hs : Storable s) : f.Stores s := by
  obtain ⟨entries, now, hentries, hcomplete⟩ := h.complete hs
  exact stores_of_complete hs hentries hcomplete

/-- What a directory holds is loaded from it. -/
theorem Holds.load (h : f.Holds old) (hstorable : ∀ s ∈ old, Storable s) : f.load = .ok old := by
  cases old with
  | none =>
    cases h with
    | nothing habsent _ => exact load_of_absent habsent
  | some s => exact (h.stores (hstorable s rfl)).load

lemma Holds.writable (h : f.Holds (some s)) (hs : Storable s) :
    Writable f.tree f.root names := by
  obtain ⟨entries, now, -, hcomplete⟩ := h.complete hs
  refine .of_read List.mem_cons_self fun name hname => ?_
  have hfiles := hname
  rw [← map_fst_files entries now s] at hfiles
  obtain ⟨file, hfile, rfl⟩ := List.mem_map.1 hfiles
  exact ⟨isName_of_mem_names _ hname, file.2, hcomplete file hfile⟩

/-- A save can come to a halt everywhere in a directory whose files can be written. -/
lemma exists_performAll_of_writable (h : Writable t root names)
    (hhalted : Halted (stepsArranged entries root now s) k done) :
    ∃ u, performAll t done = (.ok (), u) := by
  rw [stepsArranged_eq] at hhalted
  cases hhalted with
  | here => exact ⟨t, rfl⟩
  | later _ hhalted =>
    obtain ⟨u, hu⟩ := h.exists_performAll fun step => hhalted.exists_writes
    obtain ⟨place, hplace, -⟩ := h
    exact ⟨u, performAll_cons.2 ⟨t, hplace.createDirectories, hu⟩⟩

/-- What was saved in a directory whose files can be written is held there. -/
theorem holds_save (h : Writable f.tree f.root names) (s : Snapshot) :
    (f.save s).2.Holds (some s) := by
  have hall := halted_all (stepsArranged s.index.dictionary.toList f.root f.now s)
  obtain ⟨u, hu⟩ := exists_performAll_of_writable h hall
  have hsave : (f.save s).2 = { f with tree := u } := by
    simp only [save, saveArranged, hu]
  rw [hsave]
  exact .saved (.refl _) hu

/-! ## What an interrupted save leaves -/

/-- What can be loaded after a save came to a halt, by what the directory held before and by the
number of completed steps. -/
inductive Outcome (new : Snapshot) : Option Snapshot → Nat → Except Error (Option Snapshot) → Prop
  /-- The first index has no header yet. -/
  | absent {k : Nat} (hk : k ≤ 7) : Outcome new none k (.ok none)
  /-- The old index has not been touched. -/
  | kept {s : Snapshot} {k : Nat} (hk : k ≤ 1) : Outcome new (some s) k (.ok (some s))
  /-- One of the files was emptied and is not complete. -/
  | torn {s : Snapshot} {k : Nat} (hk : k = 2 ∨ k = 4 ∨ k = 6) :
      Outcome new (some s) k (.error .encoding)
  /-- The dictionary is new, the documents and the vectors are old. -/
  | dictionary {s : Snapshot} : Outcome new (some s) 3 (.ok (some { s with index := new.index }))
  /-- The dictionary and the documents are new, the vectors are old. -/
  | documents {s : Snapshot} :
      Outcome new (some s) 5 (.ok (some { new with vectors := s.vectors }))
  /-- All is new but the header. -/
  | vectors {s : Snapshot} : Outcome new (some s) 7 (.ok (some new))
  /-- The header was emptied and is not complete. -/
  | header {old : Option Snapshot} {e : Error} (he : e = .json ∨ e = .io .notText) :
      Outcome new old 8 (.error e)
  /-- The save was completed. -/
  | complete {old : Option Snapshot} : Outcome new old 9 (.ok (some new))

lemma outcome_zero : Outcome new old 0 (.ok old) := by
  cases old with
  | none => exact .absent (Nat.zero_le 7)
  | some s => exact .kept (Nat.zero_le 1)

/-- What is read of a part of a snapshot after so many steps of replacing its file. -/
def replaced {α : Type} (x y : α) : Nat → Except Error α
  | 0 => .ok x
  | 1 => .error .encoding
  | _ + 2 => .ok y

lemma loadFile_of_reached {α : Type} {read : Reader α} {p : Path} {content : Bytes} {x y : α}
    (hx : f.loadFile read p = .ok x) (hy : Reads read content y) (hread : Extends read)
    (h : Reached content (f.tree.read p) (u.read p) k) :
    loadFile { f with tree := u } read p = replaced x y k := by
  match k with
  | 0 =>
    have hsame : loadFile { f with tree := u } read p = f.loadFile read p :=
      congrArg (fun r => (r.mapError Error.io).bind (decode read)) h
    rw [hsame, hx, replaced]
  | 1 =>
    obtain ⟨n, hn, hpart⟩ := h
    rw [loadFile_of_read (f := { f with tree := u }) hpart, hy.decode_take hread hn, replaced]
  | k + 2 =>
    rw [loadFile_of_read (f := { f with tree := u }) h, hy.decode, replaced]

lemma outcome_replaced (hk : k ≤ 6) : Outcome new (some s) (k + 1) (Except.map some do
    let index ← replaced s.index new.index k
    let documents ← replaced s.documents new.documents (k - 2)
    let vectors ← replaced s.vectors new.vectors (k - 4)
    return { index, documents, vectors }) := by
  match k with
  | 0 => exact .kept (Nat.le_refl 1)
  | 1 => exact .torn (.inl rfl)
  | 2 => exact .dictionary
  | 3 => exact .torn (.inr (.inl rfl))
  | 4 => exact .documents
  | 5 => exact .torn (.inr (.inr rfl))
  | 6 => exact .vectors
  | k + 7 => omega

/-- As long as the old header stays, each part of the snapshot is read from its file. -/
lemma load_of_reached (hold : f.Stores s) (hnew : Storable new)
    (hentries : entries.Perm new.index.dictionary.toList) {i j k : Nat}
    (hheader : u.read (headerFile f.root) = f.tree.read (headerFile f.root))
    (hindex : Reached (indexArranged entries new.index) (f.tree.read (dictionaryFile f.root))
      (u.read (dictionaryFile f.root)) i)
    (hdocuments : Reached (list document new.documents) (f.tree.read (documentsFile f.root))
      (u.read (documentsFile f.root)) j)
    (hvectors : Reached (list vector new.vectors) (f.tree.read (vectorsFile f.root))
      (u.read (vectorsFile f.root)) k) :
    load { f with tree := u } = Except.map some do
      let index ← replaced s.index new.index i
      let documents ← replaced s.documents new.documents j
      let vectors ← replaced s.vectors new.vectors k
      return { index, documents, vectors } := by
  obtain ⟨now, hnow⟩ := hold.header
  rw [load_of_loadHeader ((loadHeader_congr hheader).trans hnow), loadContent,
    loadFile_of_reached hold.index (reads_index hnew.index hentries) extends_readIndex hindex,
    loadFile_of_reached hold.documents (reads_documents hnew) extends_readDocument.readList
      hdocuments,
    loadFile_of_reached hold.vectors (reads_vectors hnew) extends_readVector.readList hvectors]

lemma outcome_of_stores (hold : f.Stores s) (hnew : Storable new)
    (hentries : entries.Perm new.index.dictionary.toList) (hk : k ≤ 6)
    (h : ∀ i name content, (files entries f.now new)[i]? = some (name, content) →
      Reached content (f.tree.read (f.root.join name)) (u.read (f.root.join name)) (k - 2 * i)) :
    Outcome new (some s) (k + 1) (load { f with tree := u }) := by
  have hheader := h 3 _ _ rfl
  rw [show k - 2 * 3 = 0 by omega] at hheader
  rw [load_of_reached hold hnew hentries hheader (h 0 _ _ rfl) (h 1 _ _ rfl) (h 2 _ _ rfl)]
  exact outcome_replaced hk

lemma outcome_of_halted (hold : f.Holds old) (hstorable : ∀ s ∈ old, Storable s)
    (hnew : Storable new) (hentries : entries.Perm new.index.dictionary.toList)
    (h : Halted (stepsArranged entries f.root f.now new) k done)
    (hrun : performAll f.tree done = (.ok (), u)) :
    Outcome new old k (load { f with tree := u }) := by
  cases k with
  | zero =>
    cases h with
    | here =>
      obtain rfl := (Prod.mk.inj hrun).2
      rw [hold.load hstorable]
      exact outcome_zero
  | succ k =>
    obtain ⟨hk, v, hv, hreached⟩ := exists_of_halted hnew hentries h hrun
    have hheader := hreached 3 _ _ rfl
    -- The header is the last file: it is complete, in part, or as it was before.
    obtain rfl | rfl | hk : k = 8 ∨ k = 7 ∨ k ≤ 6 := by omega
    · have hcomplete : Complete u f.root (files entries f.now new) :=
        complete_of_reached (Nat.le_refl 8) hreached
      have hstores : Stores { f with tree := u } new :=
        stores_of_complete hnew hentries hcomplete
      rw [hstores.load]
      exact .complete
    · obtain ⟨n, hn, hpart⟩ := hheader
      obtain ⟨e, he, hread⟩ := IndexHeader.ofBytes_take _ hn
      rw [load_of_header_error hpart hread he]
      exact .header he
    · cases old with
      | none =>
        cases hold with
        | nothing _ hmade =>
          rw [show k - 2 * 3 = 0 by omega] at hheader
          rw [load_of_absent (hheader.trans (hmade v hv))]
          exact .absent (Nat.succ_le_succ hk)
      | some s =>
        -- The directory is there, so that making it changes nothing.
        have hs := hstorable s rfl
        obtain ⟨place, hplace, -⟩ := hold.writable hs
        obtain rfl := Except.ok.inj (hv.symm.trans hplace.createDirectories)
        exact outcome_of_stores (hold.stores hs) hnew hentries hk hreached

/-- **What an interrupted save leaves.** Wherever a save comes to a halt, loading has the outcome
that belongs to the number of completed steps. In a directory that holds an index all of these
outcomes can come about. A save that fails is no exception. -/
theorem load_of_interrupted_save (hold : f.Holds old) (hstorable : ∀ s ∈ old, Storable s)
    (hnew : Storable new) (hentries : entries.Perm new.index.dictionary.toList) :
    (∀ k done u, Halted (stepsArranged entries f.root f.now new) k done →
      performAll f.tree done = (.ok (), u) → Outcome new old k (load { f with tree := u })) ∧
    (old ≠ none → ∀ k done, Halted (stepsArranged entries f.root f.now new) k done →
      ∃ u, performAll f.tree done = (.ok (), u)) ∧
    ∃ k, Outcome new old k (load (f.save new).2) := by
  refine ⟨fun k done u => outcome_of_halted hold hstorable hnew hentries, ?_, ?_⟩
  · intro hne k done hhalted
    obtain ⟨s, rfl⟩ := Option.ne_none_iff_exists'.1 hne
    exact exists_performAll_of_writable (hold.writable (hstorable s rfl)) hhalted
  · obtain ⟨k, done, hhalted, hrun⟩ := exists_halted (steps f.root f.now new) f.tree
    exact ⟨k, outcome_of_halted hold hstorable hnew (.refl _) hhalted hrun⟩

/-! ## An index without documents -/

/-- The root directory of an empty file tree. -/
def vacant : IndexFiles where
  tree := {}
  root := { absolute := true, parts := [] }
  now := ""

/-- A snapshot with a document that has neither title nor text. -/
def oneDocument : Snapshot where
  documents := [{ id := 1, title := "", tokens := [] }]
  vectors := [∅]

lemma writable_vacant : Writable vacant.tree vacant.root names := by
  refine ⟨[], ⟨rfl, rfl⟩, fun name hname => ⟨isName_of_mem_names name hname, ?_⟩⟩
  simp [vacant, FileTree.entry?]

lemma storableIndex_empty : StorableIndex {} where
  dictionary := by decide
  tokens := by simp
  terms := by decide
  term := by simp
  frequencies := by decide

lemma storable_empty : Storable {} where
  index := storableIndex_empty
  documents := by decide
  document := by simp
  vectors := by decide

lemma storable_oneDocument : Storable oneDocument where
  index := storableIndex_empty
  documents := by decide
  document := by
    intro d hd
    obtain rfl := List.mem_singleton.1 hd
    exact ⟨by decide, by decide, by simp⟩
  vectors := by decide

theorem one_document_over_none :
    (vacant.save {}).2.Holds (some {}) ∧ Storable {} ∧ Storable oneDocument ∧
      ∃ u, performAll (vacant.save {}).2.tree ((steps vacant.root vacant.now oneDocument).take 5) =
          (.ok (), u) ∧
        load { (vacant.save {}).2 with tree := u } =
          .ok (some { oneDocument with vectors := [] }) := by
  have hholds := holds_save writable_vacant {}
  refine ⟨hholds, storable_empty, storable_oneDocument, ?_⟩
  obtain ⟨houtcome, hpossible, -⟩ := load_of_interrupted_save hholds
    (by rintro s ⟨⟩; exact storable_empty) storable_oneDocument (.refl _)
  have hhalted : Halted (steps vacant.root vacant.now oneDocument) 5 _ := halted_take (by decide)
  obtain ⟨u, hu⟩ := hpossible (by simp) 5 _ hhalted
  refine ⟨u, hu, ?_⟩
  have hload := houtcome 5 _ u hhalted hu
  generalize load { (vacant.save {}).2 with tree := u } = loaded at hload ⊢
  cases hload with
  | kept hk => exact absurd hk (by decide)
  | torn hk => exact absurd hk (by decide)
  | documents => rfl

/-- It is not so that an interrupted save leaves nothing, the old index or the new one. -/
theorem interrupted_save_breaks_index :
    ¬ ∀ (f : IndexFiles) (old : Option Snapshot) (new : Snapshot)
      (entries : List (String × TermId)) (k : Nat) (done : List SaveStep) (u : FileTree),
      f.Holds old → (∀ s ∈ old, Storable s) → Storable new →
      entries.Perm new.index.dictionary.toList →
      Halted (stepsArranged entries f.root f.now new) k done →
      performAll f.tree done = (.ok (), u) →
      load { f with tree := u } = .ok none ∨ load { f with tree := u } = .ok old ∨
        load { f with tree := u } = .ok (some new) := by
  intro h
  have hholds := holds_save writable_vacant {}
  have hstorable : ∀ s ∈ some ({} : Snapshot), Storable s := by
    rintro s ⟨⟩
    exact storable_empty
  have hhalted : Halted (steps vacant.root vacant.now oneDocument) 2 _ := halted_take (by decide)
  obtain ⟨u, hu⟩ := exists_performAll_of_writable (hholds.writable storable_empty) hhalted
  have hload := outcome_of_halted hholds hstorable storable_oneDocument (.refl _) hhalted hu
  have hclaim := h _ _ _ _ _ _ u hholds hstorable storable_oneDocument (.refl _) hhalted hu
  generalize load { (vacant.save {}).2 with tree := u } = loaded at hload hclaim
  cases hload with
  | kept hk => exact absurd hk (by decide)
  | torn => simp at hclaim

end DocSearch.IndexFiles
