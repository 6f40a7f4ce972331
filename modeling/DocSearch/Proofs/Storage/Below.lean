import Mathlib.Data.List.Nodup
import DocSearch.Proofs.Storage.Directories

/-!
# Files below a directory

In a tree where every entry stands in a directory (`WellFormed`), a path to a directory can be
continued to each of the files below it (`WellFormed.locate_below`). A listing has all of these
files, each once and in any order (`Lists`), and `filesBelow` gives one
(`WellFormed.lists_filesBelow`).
-/

namespace DocSearch

/-- The way on from a path along several names. -/
def Path.below (p : Path) (names : List String) : Path :=
  { p with parts := p.parts ++ names, trailingSlash := false }

namespace FileTree

variable {t : FileTree} {p : Path} {names place parts more : List String} {content : Bytes}
  {entry : Entry}

/-- Every entry stands in a directory and is reached by names. -/
def WellFormed (t : FileTree) : Prop :=
  ∀ names entry, t.entries[names]? = some entry →
    names ≠ [] ∧ t.entry? names.dropLast = some .directory ∧ ∀ name ∈ names, IsName name

instance (name : String) : Decidable (IsName name) :=
  inferInstanceAs (Decidable (_ ∧ _))

lemma wellFormed_iff : t.WellFormed ↔ ∀ x ∈ t.entries.toList,
    x.1 ≠ [] ∧ t.entry? x.1.dropLast = some .directory ∧ ∀ name ∈ x.1, IsName name := by
  simp only [WellFormed, Prod.forall, Std.ExtTreeMap.mem_toList_iff_getElem?_eq_some]

instance (t : FileTree) : Decidable t.WellFormed :=
  decidable_of_iff _ wellFormed_iff.symm

lemma entry?_nil (t : FileTree) : t.entry? [] = some .directory := rfl

lemma entry?_of_ne_nil (h : names ≠ []) : t.entry? names = t.entries[names]? := if_neg h

/-! ## Paths along names -/

lemma follow_append (h : t.follow names parts = .ok place) :
    t.follow names (parts ++ more) = t.follow place more := by
  induction parts generalizing names with
  | nil =>
    obtain rfl := Except.ok.inj h
    rfl
  | cons part parts ih =>
    obtain ⟨hdir, hrest⟩ := (follow_cons t names part parts).1 h
    rw [List.cons_append, follow, hdir]
    exact ih hrest

/-- Names are followed to the entry that they lead to. -/
lemma WellFormed.follow_names (h : t.WellFormed) : ∀ {entry : Entry},
    t.entry? (place ++ names) = some entry → t.follow place names = .ok (place ++ names) := by
  induction names using List.reverseRecOn with
  | nil =>
    intro entry _
    rw [List.append_nil]
    rfl
  | append_singleton names name ih =>
    intro entry hentry
    have hne : place ++ (names ++ [name]) ≠ [] := by simp
    rw [entry?_of_ne_nil hne] at hentry
    obtain ⟨-, hdir, hnames⟩ := h _ _ hentry
    have hname : IsName name := hnames name (by simp)
    rw [← List.append_assoc, List.dropLast_concat] at hdir
    refine (follow_concat name).2 ⟨_, ih hdir, hdir, ?_⟩
    rw [advance_name hname, List.append_assoc]

/-- A path to a directory is continued to what is below it. -/
lemma WellFormed.locate_below (h : t.WellFormed) (hp : t.Leads p place)
    (hentry : t.entry? (place ++ names) = some entry) :
    t.locate (p.below names) = .ok (place ++ names) := by
  have hplace := hp.1
  rw [locate_eq] at hplace
  have hbelow : (p.below names).parts = p.parts ++ names := rfl
  rw [show p.below names = { p.below names with trailingSlash := false } from rfl, locate_eq,
    hbelow]
  exact (follow_append hplace).trans (h.follow_names hentry)

/-! ## Listings -/

/-- The listing has every file below a place once, by the names that lead to it from there. -/
structure Lists (t : FileTree) (place : List String) (listing : List (List String × Bytes)) :
    Prop where
  nodup : listing.Nodup
  mem_iff : ∀ names content,
    (names, content) ∈ listing ↔ t.entry? (place ++ names) = some (.file content)

lemma mem_filesBelow_iff :
    (names, content) ∈ t.filesBelow place ↔ t.entries[place ++ names]? = some (.file content) := by
  rw [filesBelow, List.mem_filterMap]
  constructor
  · rintro ⟨⟨key, entry⟩, hkey, hfile⟩
    cases entry with
    | directory => exact absurd hfile (by simp)
    | file c =>
      simp only [Option.ite_none_right_eq_some, Option.some.injEq, Prod.mk.injEq] at hfile
      obtain ⟨hfront, rfl, rfl⟩ := hfile
      rw [List.isPrefixOf_iff_prefix] at hfront
      obtain ⟨names, rfl⟩ := hfront
      rw [List.drop_left]
      exact Std.ExtTreeMap.mem_toList_iff_getElem?_eq_some.1 hkey
  · intro hentry
    refine ⟨(place ++ names, .file content),
      Std.ExtTreeMap.mem_toList_iff_getElem?_eq_some.2 hentry, ?_⟩
    simp

lemma nodup_filesBelow (t : FileTree) (place : List String) : (t.filesBelow place).Nodup := by
  refine List.Nodup.filterMap ?_ ?_
  · rintro ⟨key, entry⟩ ⟨key', entry'⟩ ⟨names, content⟩ h h'
    cases entry with
    | directory => exact absurd h (by simp)
    | file c =>
      cases entry' with
      | directory => exact absurd h' (by simp)
      | file c' =>
        simp only [Option.mem_def, Option.ite_none_right_eq_some, Option.some.injEq,
          Prod.mk.injEq, List.isPrefixOf_iff_prefix] at h h'
        obtain ⟨⟨more, rfl⟩, hnames, rfl⟩ := h
        obtain ⟨⟨more', rfl⟩, hnames', rfl⟩ := h'
        rw [List.drop_left] at hnames hnames'
        rw [hnames, hnames']
  · refine List.Nodup.of_map Prod.fst ?_
    rw [Std.ExtTreeMap.map_fst_toList_eq_keys]
    exact Std.ExtTreeMap.nodup_keys

/-- The files below a place are a listing. -/
lemma WellFormed.lists_filesBelow (h : t.WellFormed) (place : List String) :
    t.Lists place (t.filesBelow place) := by
  refine ⟨nodup_filesBelow t place, fun names content => ?_⟩
  rw [mem_filesBelow_iff]
  by_cases hnil : place ++ names = []
  · rw [hnil]
    constructor
    · exact fun hentry => absurd rfl (h _ _ hentry).1
    · exact fun hentry => absurd (hentry.symm.trans (entry?_nil t)) (by simp)
  · rw [entry?_of_ne_nil hnil]

end FileTree

end DocSearch
