import DocSearch.Proofs.Storage.Interruption

/-!
# Files that are cut or padded

Every part of a snapshot begins with its length, so that none of them can be taken for a shorter
one: if one of the three files of bytes loses as little as its last byte, the snapshot cannot be
loaded any more (`Stores.load_of_cut`). What stands behind a complete part is not looked at
(`Padded.stores`), and any number of bytes may be put there (`Padded.exists_appendAll`).
-/

namespace DocSearch

/-! ## Appending to files -/

namespace FileTree

/-- Puts more bytes behind the content of a file. -/
def append (t : FileTree) (p : Path) (more : Bytes) : Except FileError FileTree :=
  (t.read p).bind fun content => t.write p (content ++ more)

/-- Puts more bytes behind the contents of files in a directory, one after the other. -/
def appendAll (t : FileTree) (root : Path) : List (String × Bytes) → Except FileError FileTree
  | [] => .ok t
  | (name, more) :: extras => (t.append (root.join name) more).bind (appendAll · root extras)

end FileTree

namespace IndexFiles

open SaveStep Layout FileTree

variable {f : IndexFiles} {t u : FileTree} {root : Path} {s : Snapshot}
  {entries : List (String × TermId)} {name other : String} {content part : Bytes}

/-- The names of the files of bytes. -/
def dataNames : List String := ["dictionary.bin", "docs.bin", "vectors.bin"]

/-- What is written to the files of bytes. -/
def dataFiles (entries : List (String × TermId)) (s : Snapshot) : List (String × Bytes) :=
  [("dictionary.bin", indexArranged entries s.index),
    ("docs.bin", list document s.documents),
    ("vectors.bin", list vector s.vectors)]

lemma map_fst_dataFiles (entries : List (String × TermId)) (s : Snapshot) :
    (dataFiles entries s).map Prod.fst = dataNames := rfl

lemma mem_names_of_mem_dataNames (h : name ∈ dataNames) : name ∈ names :=
  List.mem_append_left ["meta.json"] h

lemma isName_of_mem_dataNames (h : name ∈ dataNames) : IsName name :=
  isName_of_mem_names name (mem_names_of_mem_dataNames h)

lemma mem_dataNames_of_mem_dataFiles (h : (name, content) ∈ dataFiles entries s) :
    name ∈ dataNames := by
  rw [← map_fst_dataFiles entries s]
  exact List.mem_map_of_mem h

lemma exists_mem_dataFiles (h : name ∈ dataNames) (entries : List (String × TermId))
    (s : Snapshot) : ∃ content, (name, content) ∈ dataFiles entries s := by
  rw [← map_fst_dataFiles entries s] at h
  obtain ⟨⟨_, content⟩, hfile, rfl⟩ := List.mem_map.1 h
  exact ⟨content, hfile⟩

/-- Each name belongs to one content. -/
lemma eq_of_mem_dataFiles {c c' : Bytes} (h : (name, c) ∈ dataFiles entries s)
    (h' : (name, c') ∈ dataFiles entries s) : c = c' := by
  have hdistinct : ((dataFiles entries s).map Prod.fst).Nodup := by
    rw [map_fst_dataFiles]
    decide
  exact Option.some.inj
    (((lookup_eq_some_iff hdistinct).2 h).symm.trans ((lookup_eq_some_iff hdistinct).2 h'))

/-- Whatever is written to the files of bytes, the header stays. -/
lemma read_header_of_write (hname : name ∈ dataNames)
    (hu : t.write (root.join name) content = .ok u) :
    u.read (headerFile root) = t.read (headerFile root) := by
  refine read_of_write_of_ne (isName_of_mem_dataNames hname) (by simp [IsName]) ?_ hu
  rintro rfl
  exact absurd hname (by decide)

/-! ## Cutting -/

/-- When a file is cut, it counts as not completely written and the others as untouched. -/
lemma reached_of_cut {c : Bytes} (hfile : (name, content) ∈ dataFiles entries s)
    (hother : (other, c) ∈ dataFiles entries s) (hpart : part <+: content) (hne : part ≠ content)
    (hu : t.write (root.join name) part = .ok u) :
    Reached c (t.read (root.join other)) (u.read (root.join other))
      (if other = name then 1 else 0) := by
  have hname := isName_of_mem_dataNames (mem_dataNames_of_mem_dataFiles hfile)
  by_cases heq : other = name
  · subst heq
    obtain rfl := eq_of_mem_dataFiles hfile hother
    rw [if_pos rfl]
    refine ⟨part.length, ?_, ?_⟩
    · exact Nat.lt_of_le_of_ne hpart.length_le fun hlen => hne (hpart.eq_of_length hlen)
    · rw [← List.prefix_iff_eq_take.1 hpart]
      exact read_of_write_self hname hu
  · rw [if_neg heq]
    have hisName := isName_of_mem_dataNames (mem_dataNames_of_mem_dataFiles hother)
    exact read_of_write_of_ne hname hisName heq hu

/-- A snapshot of which one file is cut cannot be loaded. -/
theorem load_of_cut (h : f.Stores s) (hs : Storable s)
    (hentries : entries.Perm s.index.dictionary.toList)
    (hfile : (name, content) ∈ dataFiles entries s) (hpart : part <+: content)
    (hne : part ≠ content) (hu : f.tree.write (f.root.join name) part = .ok u) :
    load { f with tree := u } = .error .encoding := by
  have hname := mem_dataNames_of_mem_dataFiles hfile
  rw [load_of_reached h hs hentries (read_header_of_write hname hu)
    (reached_of_cut hfile (List.mem_of_getElem? (i := 0) rfl) hpart hne hu)
    (reached_of_cut hfile (List.mem_of_getElem? (i := 1) rfl) hpart hne hu)
    (reached_of_cut hfile (List.mem_of_getElem? (i := 2) rfl) hpart hne hu)]
  simp only [dataNames, List.mem_cons, List.not_mem_nil, or_false] at hname
  obtain rfl | rfl | rfl := hname
  · rfl
  · rfl
  · rfl

/-! ## Padding -/

/-- The files of a snapshot are complete, and there may be more bytes behind what was written. -/
structure Padded (f : IndexFiles) (s : Snapshot) : Prop where
  header : ∃ now, f.loadHeader = .ok (headerOf s now)
  written : ∃ entries, entries.Perm s.index.dictionary.toList ∧
    ∀ file ∈ dataFiles entries s, ∃ more,
      f.tree.read (f.root.join file.1) = .ok (file.2 ++ more)

/-- What stands behind the parts of a snapshot does not matter. -/
theorem Padded.stores (h : f.Padded s) (hs : Storable s) : f.Stores s := by
  obtain ⟨hheader, entries, hentries, hwritten⟩ := h
  simp only [dataFiles, List.forall_mem_cons] at hwritten
  obtain ⟨⟨a, hdictionary⟩, ⟨b, hdocuments⟩, ⟨c, hvectors⟩, -⟩ := hwritten
  refine ⟨hheader, ?_, ?_, ?_⟩
  · rw [dictionaryFile, loadFile_of_read hdictionary]
    exact (reads_index hs.index hentries).decode_append a
  · rw [documentsFile, loadFile_of_read hdocuments]
    exact (reads_documents hs).decode_append b
  · rw [vectorsFile, loadFile_of_read hvectors]
    exact (reads_vectors hs).decode_append c

lemma Padded.of_complete {now : String} (hentries : entries.Perm s.index.dictionary.toList)
    (h : Complete f.tree f.root (files entries now s)) : f.Padded s where
  header := ⟨now, loadHeader_of_read (h _ (List.mem_of_getElem? (i := 3) rfl))⟩
  written := ⟨entries, hentries, fun file hfile => ⟨[], by
    rw [List.append_nil]
    exact h file (List.mem_append_left _ hfile)⟩⟩

/-- Bytes can be put behind each of the files. -/
lemma Padded.exists_append (h : f.Padded s) (hname : name ∈ dataNames) (more : Bytes) :
    ∃ u, f.tree.append (f.root.join name) more = .ok u ∧ Padded { f with tree := u } s := by
  obtain ⟨hheader, entries, hentries, hwritten⟩ := h
  have hwritable : Writable f.tree f.root dataNames := by
    refine .of_read hname fun other hother => ⟨isName_of_mem_dataNames hother, ?_⟩
    obtain ⟨content, hfile⟩ := exists_mem_dataFiles hother entries s
    obtain ⟨behind, hread⟩ := hwritten _ hfile
    exact ⟨_, hread⟩
  obtain ⟨content, hfile⟩ := exists_mem_dataFiles hname entries s
  obtain ⟨behind, hread⟩ := hwritten _ hfile
  obtain ⟨u, hu, -⟩ := hwritable.exists_write hname (content ++ behind ++ more)
  refine ⟨u, by simp only [append, hread, Except.bind, hu], ?_, entries, hentries, ?_⟩
  · obtain ⟨now, hnow⟩ := hheader
    exact ⟨now, (loadHeader_congr (read_header_of_write hname hu)).trans hnow⟩
  · rintro ⟨other, c⟩ hother
    have hisName := isName_of_mem_dataNames (mem_dataNames_of_mem_dataFiles hother)
    by_cases heq : other = name
    · subst heq
      obtain rfl := eq_of_mem_dataFiles hfile hother
      refine ⟨behind ++ more, ?_⟩
      rw [← List.append_assoc]
      exact read_of_write_self hisName hu
    · obtain ⟨before, hbefore⟩ := hwritten _ hother
      exact ⟨before, (read_of_write_of_ne (isName_of_mem_dataNames hname) hisName heq hu).trans
        hbefore⟩

lemma Padded.exists_appendAll {extras : List (String × Bytes)} (h : f.Padded s)
    (hextras : ∀ e ∈ extras, e.1 ∈ dataNames) :
    ∃ u, f.tree.appendAll f.root extras = .ok u ∧ Padded { f with tree := u } s := by
  induction extras generalizing f with
  | nil => exact ⟨f.tree, rfl, h⟩
  | cons e extras ih =>
    obtain ⟨name, more⟩ := e
    obtain ⟨hname, hextras⟩ := List.forall_mem_cons.1 hextras
    obtain ⟨t, ht, hpadded⟩ := h.exists_append hname more
    obtain ⟨u, hu, hpadded⟩ := ih hpadded hextras
    exact ⟨u, by simp only [appendAll, ht, Except.bind, hu], hpadded⟩

/-! ## Saved snapshots -/

/-- **Files that lack something are noticed, and files with more are not.** In a directory where a
snapshot was saved, each of the three files of bytes can be replaced by any proper prefix of its
content, and then loading fails for its encoding. If any bytes are appended to any of these files,
any number of times, the snapshot is loaded as before. -/
theorem truncation_detected (h : f.Holds (some s)) (hs : Storable s) :
    (∀ name ∈ dataNames, ∃ content, f.tree.read (f.root.join name) = .ok content ∧
      ∀ part, part <+: content → part ≠ content →
        ∃ u, f.tree.write (f.root.join name) part = .ok u ∧
          load { f with tree := u } = .error .encoding) ∧
    ∀ extras : List (String × Bytes), (∀ e ∈ extras, e.1 ∈ dataNames) →
      ∃ u, f.tree.appendAll f.root extras = .ok u ∧ load { f with tree := u } = .ok (some s) := by
  obtain ⟨entries, now, hentries, hcomplete⟩ := h.complete hs
  constructor
  · intro name hname
    obtain ⟨content, hfile⟩ := exists_mem_dataFiles hname entries s
    refine ⟨content, hcomplete _ (List.mem_append_left _ hfile), fun part hpart hne => ?_⟩
    obtain ⟨u, hu, -⟩ := (h.writable hs).exists_write (mem_names_of_mem_dataNames hname) part
    exact ⟨u, hu, load_of_cut (h.stores hs) hs hentries hfile hpart hne hu⟩
  · intro extras hextras
    have hpadded : f.Padded s := .of_complete hentries hcomplete
    obtain ⟨u, hu, hpadded⟩ := hpadded.exists_appendAll hextras
    exact ⟨u, hu, (hpadded.stores hs).load⟩

theorem one_document_cut_and_padded :
    (vacant.save oneDocument).2.Holds (some oneDocument) ∧ Storable oneDocument ∧
      (∃ content,
        (vacant.save oneDocument).2.tree.read (vacant.root.join "docs.bin") = .ok content ∧
        content = list document oneDocument.documents ∧
        ∃ u, (vacant.save oneDocument).2.tree.write (vacant.root.join "docs.bin") [1, 0] = .ok u ∧
          load { (vacant.save oneDocument).2 with tree := u } = .error .encoding) ∧
      ∃ u, (vacant.save oneDocument).2.tree.appendAll vacant.root
          [("docs.bin", [1, 0]), ("vectors.bin", [7]), ("docs.bin", [255])] = .ok u ∧
        load { (vacant.save oneDocument).2 with tree := u } = .ok (some oneDocument) := by
  have hholds := holds_save writable_vacant oneDocument
  obtain ⟨hcut, hpadded⟩ := truncation_detected hholds storable_oneDocument
  obtain ⟨content, hread, hload⟩ := hcut "docs.bin" (by decide)
  have hcontent : content = list document oneDocument.documents := by
    obtain ⟨entries, now, -, hcomplete⟩ := hholds.complete storable_oneDocument
    exact Except.ok.inj (hread.symm.trans (hcomplete _ (List.mem_of_getElem? (i := 1) rfl)))
  refine ⟨hholds, storable_oneDocument, ⟨content, hread, hcontent, hload [1, 0] ?_ ?_⟩,
    hpadded _ (by decide)⟩
  · rw [hcontent]
    decide
  · rw [hcontent]
    decide

end IndexFiles

end DocSearch
