import DocSearch.Proofs.Storage.Agreement
import DocSearch.Proofs.Storage.Directories

/-!
# Indexes beside other directories

An index and another directory of the same tree do not disturb each other. Directories that are made
anywhere leave a saved index as it is (`Faultless.grown`), and a save leaves the way to another
directory clear unless one of the files of the index belongs on it (`clear_of_save`).
-/

namespace DocSearch

namespace SaveStep

open FileTree

variable {t u : FileTree} {root p : Path} {names : List String} {steps : List SaveStep}

/-- The files of a directory are not on the way of a path. -/
def Apart (t : FileTree) (root : Path) (names : List String) (p : Path) : Prop :=
  ∀ name ∈ names, t.goal root ++ [name] ∉ t.way p

/-- Steps that write files beside the way leave it clear. -/
lemma clear_of_performAll (hnames : ∀ name ∈ names, IsName name)
    (hsteps : ∀ step ∈ steps, ∃ name ∈ names, ∃ content, step.Writes (root.join name) content)
    (hapart : Apart t root names p) (hclear : t.Clear p) (h : performAll t steps = (.ok (), u)) :
    u.Clear p ∧ u.workingDirectory = t.workingDirectory := by
  induction steps generalizing t with
  | nil =>
    obtain rfl := (Prod.mk.inj h).2
    exact ⟨hclear, rfl⟩
  | cons step steps ih =>
    obtain ⟨⟨name, hname, content, hwrites⟩, hsteps⟩ := List.forall_mem_cons.1 hsteps
    obtain ⟨v, hv, hrest⟩ := performAll_cons.1 h
    rw [hwrites t] at hv
    obtain ⟨place, hplace, hfree, rfl⟩ := exists_of_write (hnames name hname) hv
    obtain rfl := goal_of_leads hplace
    -- A file that is put somewhere does not change where paths lead.
    have hapart' : Apart (t.put (t.goal root ++ [name]) (.file content)) root names p := hapart
    obtain ⟨hclear, hdirectory⟩ := ih hsteps hapart' (hclear.put hfree (hapart name hname)) hrest
    exact ⟨hclear, hdirectory⟩

end SaveStep

namespace IndexFiles

open SaveStep FileTree

variable {f g : IndexFiles} {u : FileTree} {s : Snapshot} {p : Path}

/-! ## Indexes in trees that gain directories -/

/-- What is loaded depends on nothing but the contents of the files. -/
lemma load_congr (h : ∀ name ∈ names, u.read (f.root.join name) = f.tree.read (f.root.join name)) :
    load { f with tree := u } = f.load := by
  simp only [names, List.forall_mem_cons] at h
  obtain ⟨hdictionary, hdocuments, hvectors, hheader, -⟩ := h
  simp only [load, loadHeader, loadContent, loadFile, headerFile, dictionaryFile, documentsFile,
    vectorsFile, hdictionary, hdocuments, hvectors, hheader]

lemma exists_read_of_loadFile {α : Type} {read : Layout.Reader α} {p : Path} {x : α}
    (h : f.loadFile read p = .ok x) : ∃ content, f.tree.read p = .ok content := by
  cases hread : f.tree.read p with
  | ok content => exact ⟨content, rfl⟩
  | error e =>
    simp only [loadFile, hread, Except.mapError, Except.bind] at h
    exact absurd h (by simp)

lemma exists_read_of_loadHeader {header : IndexHeader} (h : f.loadHeader = .ok header) :
    ∃ content, f.tree.read (headerFile f.root) = .ok content := by
  cases hread : f.tree.read (headerFile f.root) with
  | ok content => exact ⟨content, rfl⟩
  | error e =>
    simp only [loadHeader, hread, Except.mapError, Except.bind] at h
    exact absurd h (by simp)

/-- All files are there if a snapshot is loaded. -/
lemma exists_read_of_load (h : f.load = .ok (some s)) :
    ∀ name ∈ names, ∃ content, f.tree.read (f.root.join name) = .ok content := by
  obtain ⟨⟨header, hheader⟩, hindex, hdocuments, hvectors⟩ := loadFile_of_load h
  simp only [names, List.forall_mem_cons]
  exact ⟨exists_read_of_loadFile hindex, exists_read_of_loadFile hdocuments,
    exists_read_of_loadFile hvectors, exists_read_of_loadHeader hheader, by simp⟩

lemma exists_read_grown (h : f.load = .ok (some s)) (hgrown : Grown f.tree u) :
    ∀ name ∈ names, ∃ content, f.tree.read (f.root.join name) = .ok content ∧
      u.read (f.root.join name) = .ok content := by
  intro name hname
  obtain ⟨content, hcontent⟩ := exists_read_of_load h name hname
  exact ⟨content, hcontent, hgrown.read (isName_of_mem_names name hname) hcontent⟩

/-- New directories do not change what is loaded. -/
lemma load_grown (h : f.load = .ok (some s)) (hgrown : Grown f.tree u) :
    load { f with tree := u } = .ok (some s) := by
  rw [← h]
  refine load_congr fun name hname => ?_
  obtain ⟨content, hcontent, hcontent'⟩ := exists_read_grown h hgrown name hname
  rw [hcontent, hcontent']

/-- New directories do not disturb a saved index. -/
theorem Faultless.grown (h : f.Faultless (some s)) (hgrown : Grown f.tree u) :
    Faultless { f with tree := u } (some s) := by
  refine ⟨load_grown h.load hgrown, .of_writable (.of_read List.mem_cons_self fun name hname => ?_)⟩
  obtain ⟨content, -, hcontent⟩ := exists_read_grown h.load hgrown name hname
  exact ⟨isName_of_mem_names name hname, content, hcontent⟩

/-! ## Ways beside an index -/

/-- A save keeps clear of a path that the files of the index do not belong on. -/
theorem clear_of_save (h : f.save s = (.ok (), g)) (hapart : Apart f.tree f.root names p)
    (hclear : f.tree.Clear p) :
    g = { f with tree := g.tree } ∧ g.tree.Clear p ∧
      g.tree.workingDirectory = f.tree.workingDirectory := by
  -- A save makes the directory, with all that is missing above it, and then writes its files.
  obtain ⟨outcome, u, hu⟩ : ∃ outcome u, performAll f.tree
      (stepsArranged s.index.dictionary.toList f.root f.now s) = (outcome, u) := ⟨_, _, rfl⟩
  simp only [save, saveArranged, hu] at h
  obtain ⟨houtcome, rfl⟩ := Prod.mk.inj h
  cases outcome with
  | error e => exact absurd houtcome (by simp [Except.mapError])
  | ok _ =>
    obtain ⟨v, hv, hwrites⟩ := performAll_cons.1 hu
    have hgrown : Grown f.tree v := .of_createDirectories hv
    have hall := halted_all (putAll f.root (files s.index.dictionary.toList f.now s))
    have hapart' : Apart v f.root names p := by
      intro name hname
      rw [goal, way, hgrown.start_eq, hgrown.start_eq]
      exact hapart name hname
    obtain ⟨hclear, hdirectory⟩ := clear_of_performAll isName_of_mem_names
      (fun step => hall.exists_writes) hapart' (hclear.grown hgrown) hwrites
    exact ⟨rfl, hclear, hdirectory.trans hgrown.workingDirectory⟩

end IndexFiles

end DocSearch
