import DocSearch.Ingest
import DocSearch.Proofs.Basic
import DocSearch.Proofs.Storage.FileTree

/-!
# What an input gives

The documents of an input depend on what its path leads to: a file, which is read as its extension
says (`documents_of_file`), a directory (`documents_of_leads`), or nothing, which gives no documents
and is no error (`documents_of_missing`).
-/

namespace DocSearch.Ingest

open FileTree

variable {t : FileTree} {a : Analyzer} {p : Path} {place names : List String} {content : Bytes}

/-- A file is read as its extension says. -/
lemma documents_of_file (hp : t.locate p = .ok place)
    (hentry : t.entry? place = some (.file content)) :
    documents t a (some p) = ofEntry a (place, content) := by
  simp only [documents, hp, hentry]

/-- Of a directory all files below it are read. -/
lemma documents_of_leads (hp : t.Leads p place) :
    documents t a (some p) = ofListing a (t.filesBelow place) := by
  simp only [documents, hp.locate, hp.2]

/-- Where nothing is, there are no documents. -/
lemma documents_of_missing (hp : t.lookup p = none) : documents t a (some p) = .ok [] := by
  rw [lookup] at hp
  rw [documents]
  split
  · rfl
  · next place hplace =>
    rw [hplace] at hp
    simp only at hp
    simp only [hp]

/-- Only the last of the names that lead to a file counts. -/
lemma ofEntry_append (hnames : names ≠ []) :
    ofEntry a (place ++ names, content) = ofEntry a (names, content) := by
  obtain ⟨last, hlast⟩ := Option.ne_none_iff_exists'.1 (mt List.getLast?_eq_none_iff.1 hnames)
  simp only [ofEntry, List.getLast?_append, hlast, Option.some_or]

end DocSearch.Ingest
