import DocSearch.Proofs.Ascending
import DocSearch.Proofs.Ingest.Basic
import DocSearch.Proofs.Storage.Below

/-!
# Directories of documents

The documents of a directory are those that the files below it give alone, for the files with one of
the two extensions in the order of their paths (`documents_below`). The order in which the directory
is listed does not matter, since the files that are read are sorted and no two of them have the same
path (`reads_selected`), and neither do the other files.
-/

namespace DocSearch.Ingest

open FileTree

variable {t u : FileTree} {a : Analyzer} {p q : Path} {place place' names : List String}
  {content : Bytes} {listing : List (List String × Bytes)} {files : List (List String)}

/-- The file has one of the two extensions. -/
def IsSource (names : List String) : Prop :=
  ∃ name, names.getLast? = some name ∧
    (extension? name = some "json" ∨ extension? name = some "jsonl")

lemma isRead_iff : isRead names = true ↔ IsSource names := by
  rw [isRead, IsSource]
  cases hlast : names.getLast? with
  | none => simp
  | some name =>
    cases hextension : extension? name with
    | none => simp [hextension]
    | some e => simp [hextension]

lemma IsSource.ne_nil (h : IsSource names) : names ≠ [] := by
  rintro rfl
  obtain ⟨name, hname, -⟩ := h
  exact absurd hname (by simp)

/-- The files below a place that are read, in the order of their paths name by name. -/
structure Reads (t : FileTree) (place : List String) (files : List (List String)) : Prop where
  ascends : Ascends compare files
  mem_iff : ∀ names, names ∈ files ↔
    IsSource names ∧ ∃ content, t.entry? (place ++ names) = some (.file content)

/-- There is one such list. -/
lemma Reads.eq {files' : List (List String)} (h : Reads t place files) (h' : Reads t place files') :
    files = files' :=
  h.ascends.eq_of_mem_iff h'.ascends fun names => by rw [h.mem_iff, h'.mem_iff]

/-! ## Sorting -/

lemma mem_selected : (names, content) ∈ selected listing ↔
    (names, content) ∈ listing ∧ IsSource names := by
  rw [selected, (List.mergeSort_perm _ _).mem_iff, List.mem_filter, isRead_iff]

/-- Different members of a listing have different names. -/
lemma pairwise_of_lists (h : t.Lists place listing) :
    listing.Pairwise fun x y => compare x.1 y.1 ≠ .eq := by
  refine h.nodup.imp_of_mem ?_
  rintro ⟨names, content⟩ ⟨names', content'⟩ hx hy hne heq
  obtain rfl : names = names' := Std.LawfulEqCmp.eq_of_compare heq
  have hsame := ((h.mem_iff _ _).1 hx).symm.trans ((h.mem_iff _ _).1 hy)
  simp only [Option.some.injEq, Entry.file.injEq] at hsame
  exact hne (by rw [hsame])

/-- Whatever the order of a listing, the files that are read are the same. -/
lemma reads_selected (h : t.Lists place listing) :
    Reads t place ((selected listing).map Prod.fst) := by
  constructor
  · have hcmp : Std.TransCmp fun x y : List String × Bytes => compare x.1 y.1 :=
      inferInstanceAs (Std.TransCmp (compareOn Prod.fst))
    exact List.pairwise_map.2 (ascends_mergeSort ((pairwise_of_lists h).filter _))
  · intro names
    simp only [List.mem_map, Prod.exists, mem_selected, h.mem_iff]
    constructor
    · rintro ⟨_, content, ⟨hentry, hsource⟩, rfl⟩
      exact ⟨hsource, content, hentry⟩
    · rintro ⟨hsource, content, hentry⟩
      exact ⟨names, content, ⟨hentry, hsource⟩, rfl⟩

/-! ## One file after the other -/

/-- What a file below the path gives as an input of its own. -/
def alone (t : FileTree) (a : Analyzer) (p : Path) (names : List String) :
    Except Error (List Document) :=
  documents t a (some (p.below names))

lemma alone_of_entry (ht : t.WellFormed) (hp : t.Leads p place) (hsource : IsSource names)
    (hentry : t.entry? (place ++ names) = some (.file content)) :
    alone t a p names = ofEntry a (names, content) := by
  rw [alone, documents_of_file (ht.locate_below hp hentry) hentry, ofEntry_append hsource.ne_nil]

/-- Whatever the order of a listing, its files are read one after the other, each as it is alone. -/
lemma ofListing_eq (h : t.Lists place listing) (ht : t.WellFormed) (hp : t.Leads p place)
    (hreads : Reads t place files) :
    ofListing a listing = (files.mapM (alone t a p)).map List.flatten := by
  rw [ofListing, hreads.eq (reads_selected h), List.mapM_map]
  congr 1
  refine mapM_congr_of_mem ?_
  rintro ⟨names, content⟩ hmem
  obtain ⟨hlisted, hsource⟩ := mem_selected.1 hmem
  exact (alone_of_entry ht hp hsource ((h.mem_iff _ _).1 hlisted)).symm

lemma documents_eq (ht : t.WellFormed) (hp : t.Leads p place) (hreads : Reads t place files) :
    documents t a (some p) = (files.mapM (alone t a p)).map List.flatten := by
  rw [documents_of_leads hp]
  exact ofListing_eq (ht.lists_filesBelow place) ht hp hreads

/-- The same files with one of the two extensions stand below both places. -/
def SameSources (t : FileTree) (place : List String) (u : FileTree) (place' : List String) : Prop :=
  ∀ names content, IsSource names →
    (t.entry? (place ++ names) = some (.file content) ↔
      u.entry? (place' ++ names) = some (.file content))

lemma SameSources.reads (h : SameSources t place u place') (hreads : Reads t place files) :
    Reads u place' files := by
  refine ⟨hreads.ascends, fun names => ?_⟩
  rw [hreads.mem_iff]
  refine and_congr_right fun hsource => ?_
  exact exists_congr fun content => h names content hsource

lemma SameSources.alone_eq (h : SameSources t place u place') (ht : t.WellFormed)
    (hp : t.Leads p place) (hu : u.WellFormed) (hq : u.Leads q place')
    (hreads : Reads t place files) (hmem : names ∈ files) :
    alone u a q names = alone t a p names := by
  obtain ⟨hsource, content, hentry⟩ := (hreads.mem_iff names).1 hmem
  rw [alone_of_entry ht hp hsource hentry,
    alone_of_entry hu hq hsource ((h names content hsource).1 hentry)]

/-- Files with other extensions have no influence. -/
lemma SameSources.documents_eq (h : SameSources t place u place') (ht : t.WellFormed)
    (hp : t.Leads p place) (hu : u.WellFormed) (hq : u.Leads q place')
    (hreads : Reads t place files) : documents u a (some q) = documents t a (some p) := by
  rw [Ingest.documents_eq ht hp hreads, Ingest.documents_eq hu hq (h.reads hreads)]
  congr 1
  exact mapM_congr_of_mem fun names hmem => h.alone_eq ht hp hu hq hreads hmem

/-- **Directories are read file by file.** Every order in which a directory is listed gives the
documents of the files with one of the two extensions, each read alone, in the order of their paths.
It fails as the first of these files that fails alone. Other files have no influence. -/
theorem documents_below (ht : t.WellFormed) (hp : t.Leads p place) :
    ∃ files, Reads t place files ∧
      (∀ listing, t.Lists place listing → ofListing a listing = documents t a (some p)) ∧
      (∀ ds, documents t a (some p) = .ok ds ↔
        ∃ parts : List (List Document),
          files.map (alone t a p) = parts.map .ok ∧ parts.flatten = ds) ∧
      (∀ e, documents t a (some p) = .error e ↔
        ∃ before names behind, files = before ++ names :: behind ∧
          (∀ x ∈ before, ∃ ds, alone t a p x = .ok ds) ∧ alone t a p names = .error e) ∧
      ∀ u q place', FileTree.WellFormed u → u.Leads q place' → SameSources t place u place' →
        documents u a (some q) = documents t a (some p) := by
  have hreads := reads_selected (ht.lists_filesBelow place)
  refine ⟨_, hreads, ?_, ?_, ?_, ?_⟩
  · intro listing hlists
    rw [ofListing_eq hlists ht hp hreads, documents_eq ht hp hreads]
  · intro ds
    rw [documents_eq ht hp hreads, map_eq_ok_iff]
    simp only [mapM_eq_ok_iff]
  · intro e
    rw [documents_eq ht hp hreads, map_eq_error_iff, mapM_eq_error_iff]
  · intro u q place' hu hq hsame
    exact hsame.documents_eq ht hp hu hq hreads

/-- Two files of documents at different depths beside a file of notes. -/
def nested : FileTree where
  entries := Std.ExtTreeMap.ofList
    [(["d"], Entry.directory), (["d", "b"], Entry.directory),
      (["d", "b.json"],
        Entry.file (Bytes.ofText "\x7b\"id\":2,\"title\":\"\",\"body\":\"\"\x7d")),
      (["d", "b", "a.jsonl"],
        Entry.file (Bytes.ofText "\x7b\"id\":1,\"title\":\"\",\"body\":\"\"\x7d")),
      (["d", "b", "notes"], Entry.file (Bytes.ofText "none"))]

lemma selected_nested : selected (nested.filesBelow ["d"]) =
    (nested.filesBelow ["d"]).filter fun (names, _) => isRead names :=
  List.mergeSort_of_pairwise (by decide +kernel)

theorem nested_documents_below :
    nested.WellFormed ∧ nested.Leads (Path.ofText "d") ["d"] ∧
      ∃ files, Reads nested ["d"] files ∧
        ∃ parts : List (List Document),
          files.map (alone nested {} (Path.ofText "d")) = parts.map .ok ∧
            parts.flatten.map Document.id = [1, 2] := by
  have hnested : nested.WellFormed := by decide +kernel
  have hleads : nested.Leads (Path.ofText "d") ["d"] := ⟨by decide +kernel, by decide +kernel⟩
  obtain ⟨files, hreads, -, hok, -⟩ := documents_below (a := {}) hnested hleads
  have hds : documents nested {} (some (Path.ofText "d")) = .ok [⟨1, "", []⟩, ⟨2, "", []⟩] := by
    rw [documents_of_leads hleads, ofListing, selected_nested]
    decide +kernel
  obtain ⟨parts, hparts, hflatten⟩ := (hok _).1 hds
  exact ⟨hnested, hleads, files, hreads, parts, hparts, by rw [hflatten]; rfl⟩

end DocSearch.Ingest
