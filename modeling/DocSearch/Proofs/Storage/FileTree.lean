import Mathlib.Tactic.Lemma
import DocSearch.Storage.FileTree

/-!
# Laws of file trees

A file that was written is read back (`read_of_write_self`), and the other files of its directory
are as before (`read_of_write_of_ne`). A directory that is there need not be made
(`Leads.createDirectories`).
-/

namespace DocSearch.FileTree

/-- The name of an entry, not one of those that stay or go up. -/
def IsName (name : String) : Prop := name ≠ "." ∧ name ≠ ".."

variable {t u : FileTree} {p : Path} {name other : String} {names place key parts : List String}
  {content : Bytes} {entry : Entry}

/-! ## Following paths -/

lemma follow_cons (t : FileTree) (names : List String) (part : String) (parts : List String) :
    t.follow names (part :: parts) = .ok place ↔
      t.entry? names = some .directory ∧ t.follow (advance names part) parts = .ok place := by
  rw [follow]
  split
  · next h => simp [h]
  · next h => simp [h]
  · next h => simp [h]

lemma follow_concat (part : String) : ∀ {names : List String},
    t.follow names (parts ++ [part]) = .ok key ↔
      ∃ place, t.follow names parts = .ok place ∧ t.entry? place = some .directory ∧
        advance place part = key := by
  induction parts with
  | nil =>
    intro names
    rw [List.nil_append, follow_cons]
    constructor
    · rintro ⟨hdir, hkey⟩
      exact ⟨names, rfl, hdir, Except.ok.inj hkey⟩
    · rintro ⟨place, hplace, hdir, rfl⟩
      obtain rfl := Except.ok.inj hplace
      exact ⟨hdir, rfl⟩
  | cons first parts ih =>
    intro names
    rw [List.cons_append, follow_cons, ih]
    constructor
    · rintro ⟨hdir, place, hplace, hrest⟩
      exact ⟨place, (follow_cons t names first parts).2 ⟨hdir, hplace⟩, hrest⟩
    · rintro ⟨place, hplace, hrest⟩
      obtain ⟨hdir, hplace⟩ := (follow_cons t names first parts).1 hplace
      exact ⟨hdir, place, hplace, hrest⟩

/-- The path leads to a directory at a place. -/
def Leads (t : FileTree) (p : Path) (place : List String) : Prop :=
  t.locate { p with trailingSlash := false } = .ok place ∧ t.entry? place = some .directory

lemma Leads.eq {other : List String} (h : t.Leads p place) (h' : t.Leads p other) :
    place = other :=
  Except.ok.inj (h.1.symm.trans h'.1)

lemma advance_name (hname : IsName name) (place : List String) :
    advance place name = place ++ [name] := by
  rw [advance, if_neg hname.1, if_neg hname.2]

/-- A name below a path is located below the directory that the path leads to. -/
lemma locate_join (hname : IsName name) :
    t.locate (p.join name) = .ok key ↔ ∃ place, t.Leads p place ∧ place ++ [name] = key := by
  simp only [locate, Path.join, Bool.false_eq_true, if_false, List.append_nil, follow_concat,
    advance_name hname, Leads, and_assoc]
  exact Iff.rfl

/-! ## Changing entries -/

/-- The tree with an entry at a place. -/
def put (t : FileTree) (key : List String) (entry : Entry) : FileTree :=
  { t with entries := t.entries.insert key entry }

lemma entry?_put (hkey : key ≠ []) : entry? (t.put key entry) names =
    if names = key then some entry else t.entry? names := by
  by_cases hnames : names = []
  · subst hnames
    rw [if_neg (Ne.symm hkey)]
    rfl
  · simp only [put, entry?, if_neg hnames, Std.ExtTreeMap.getElem?_insert]
    by_cases h : names = key
    · simp [h]
    · simp [h, Ne.symm h]

lemma ne_nil_of_free (h : t.entry? key ≠ some .directory) : key ≠ [] := by
  rintro rfl
  exact h rfl

/-- Paths lead through a new entry to the same places as before. -/
lemma follow_put (hkey : t.entry? key ≠ some .directory) : ∀ {names : List String},
    t.follow names parts = .ok place → (t.put key entry).follow names parts = .ok place := by
  induction parts with
  | nil => exact fun h => h
  | cons part parts ih =>
    intro names h
    obtain ⟨hdir, hrest⟩ := (follow_cons t names part parts).1 h
    refine (follow_cons _ _ _ _).2 ⟨?_, ih hrest⟩
    have hne : names ≠ key := by
      rintro rfl
      exact hkey hdir
    rw [entry?_put (ne_nil_of_free hkey), if_neg hne, hdir]

lemma Leads.put (h : t.Leads p place) (hkey : t.entry? key ≠ some .directory) :
    (t.put key entry).Leads p place := by
  refine ⟨follow_put hkey h.1, ?_⟩
  have hne : place ≠ key := by
    rintro rfl
    exact hkey h.2
  rw [entry?_put (ne_nil_of_free hkey), if_neg hne, h.2]

/-! ## Reading and writing below a directory -/

lemma Leads.locate_join (h : t.Leads p place) (hname : IsName name) :
    t.locate (p.join name) = .ok (place ++ [name]) :=
  (FileTree.locate_join hname).2 ⟨place, h, rfl⟩

lemma Leads.read_join (h : t.Leads p place) (hname : IsName name)
    (hentry : t.entry? (place ++ [name]) = some (.file content)) :
    t.read (p.join name) = .ok content := by
  simp only [read, h.locate_join hname, hentry]

lemma Leads.read_join_congr (h : t.Leads p place) (h' : u.Leads p place) (hname : IsName name)
    (hentry : u.entry? (place ++ [name]) = t.entry? (place ++ [name])) :
    u.read (p.join name) = t.read (p.join name) := by
  simp only [read, h.locate_join hname, h'.locate_join hname, hentry]

lemma Leads.write_join (h : t.Leads p place) (hname : IsName name)
    (hfree : t.entry? (place ++ [name]) ≠ some .directory) (content : Bytes) :
    t.write (p.join name) content = .ok (t.put (place ++ [name]) (.file content)) := by
  simp only [write, h.locate_join hname]
  cases hentry : t.entry? (place ++ [name]) with
  | none => rfl
  | some entry =>
    cases entry with
    | file _ => rfl
    | directory => exact absurd hentry hfree

/-- What writing a file below a directory does. -/
lemma exists_of_write (hname : IsName name) (h : t.write (p.join name) content = .ok u) :
    ∃ place, t.Leads p place ∧ t.entry? (place ++ [name]) ≠ some .directory ∧
      u = t.put (place ++ [name]) (.file content) := by
  rw [write] at h
  split at h
  · exact absurd h (by simp)
  · next key hkey =>
    obtain ⟨place, hplace, rfl⟩ := (FileTree.locate_join hname).1 hkey
    split at h
    · exact absurd h (by simp)
    · next hnot => exact ⟨place, hplace, fun hdir => hnot hdir, (Except.ok.inj h).symm⟩

/-- A file that was written is read back. -/
theorem read_of_write_self (hname : IsName name) (h : t.write (p.join name) content = .ok u) :
    u.read (p.join name) = .ok content := by
  obtain ⟨place, hplace, hnot, rfl⟩ := exists_of_write hname h
  refine (hplace.put hnot).read_join hname ?_
  rw [entry?_put (ne_nil_of_free hnot), if_pos rfl]

/-- Writing a file does not change another one in the same directory. -/
theorem read_of_write_of_ne (hname : IsName name) (hother : IsName other) (hne : other ≠ name)
    (h : t.write (p.join name) content = .ok u) :
    u.read (p.join other) = t.read (p.join other) := by
  obtain ⟨place, hplace, hnot, rfl⟩ := exists_of_write hname h
  have hkey : place ++ [other] ≠ place ++ [name] := by simpa using hne
  refine hplace.read_join_congr (hplace.put hnot) hother ?_
  rw [entry?_put (ne_nil_of_free hnot), if_neg hkey]

/-- A file that can be read is in a directory. -/
lemma exists_leads_of_read {c : Bytes} (hname : IsName name) (h : t.read (p.join name) = .ok c) :
    ∃ place, t.Leads p place ∧ t.entry? (place ++ [name]) = some (.file c) := by
  rw [read] at h
  split at h
  · exact absurd h (by simp)
  · next key hkey =>
    obtain ⟨place, hplace, rfl⟩ := (FileTree.locate_join hname).1 hkey
    refine ⟨place, hplace, ?_⟩
    split at h
    · exact absurd h (by simp)
    · exact absurd h (by simp)
    · next hfile => rw [hfile, Except.ok.inj h]

/-! ## Making directories -/

/-- A slash at the end stays in the directory. -/
lemma Leads.locate (h : t.Leads p place) : t.locate p = .ok place := by
  obtain ⟨absolute, parts, trailingSlash⟩ := p
  cases trailingSlash with
  | false => exact h.1
  | true =>
    have hparts := h.1
    simp only [FileTree.locate, Bool.false_eq_true, if_false, List.append_nil] at hparts
    exact (follow_concat ".").2 ⟨place, hparts, h.2, rfl⟩

lemma Leads.isDirectory (h : t.Leads p place) : t.isDirectory p = true := by
  simp only [FileTree.isDirectory, lookup, h.locate, h.2, decide_true]

/-- A directory that is there need not be made. -/
theorem Leads.createDirectories (h : t.Leads p place) : t.createDirectories p = .ok t := by
  have hpresent : t.createDirectory p = .error .alreadyExists := by
    simp only [createDirectory, h.1, h.2]
  simp only [FileTree.createDirectories, createBelow, hpresent, orPresent, h.isDirectory, if_true]

end DocSearch.FileTree
