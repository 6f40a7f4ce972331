import Mathlib.Data.List.Induction
import DocSearch.Proofs.Storage.FileTree

/-!
# Directories that are made

A directory can be made, with all that is missing above it, if no file stands on the way to it
(`Clear`, `Clear.exists_createDirectories`). Whatever is made for it, the tree only gains
directories where there was nothing (`Grown`), so all files are read as before.
-/

namespace DocSearch.FileTree

variable {t u v : FileTree} {p : Path} {name : String} {names place key parts : List String}
  {content : Bytes} {entry : Entry}

/-! ## Trees that gain directories -/

/-- The second tree has the entries of the first, and further directories. -/
structure Grown (t u : FileTree) : Prop where
  workingDirectory : u.workingDirectory = t.workingDirectory
  entry : ∀ names, u.entry? names = t.entry? names ∨
    (t.entry? names = none ∧ u.entry? names = some .directory)

lemma Grown.refl (t : FileTree) : Grown t t := ⟨rfl, fun _ => .inl rfl⟩

lemma Grown.trans (h : Grown t u) (h' : Grown u v) : Grown t v where
  workingDirectory := h'.workingDirectory.trans h.workingDirectory
  entry := by
    intro names
    rcases h'.entry names with heq | ⟨hnone, hdir⟩
    · rw [heq]
      exact h.entry names
    · rcases h.entry names with heq | ⟨hnone', -⟩
      · exact .inr ⟨heq ▸ hnone, hdir⟩
      · exact .inr ⟨hnone', hdir⟩

lemma Grown.put_directory (h : t.entry? key = none) : Grown t (t.put key .directory) where
  workingDirectory := rfl
  entry := by
    intro names
    rw [entry?_put (ne_nil_of_free (by rw [h]; simp))]
    split
    · next heq => exact .inr ⟨heq ▸ h, rfl⟩
    · exact .inl rfl

lemma Grown.entry_eq (h : Grown t u) (hentry : t.entry? names = some entry) :
    u.entry? names = some entry := by
  rcases h.entry names with heq | ⟨hnone, -⟩
  · rw [heq, hentry]
  · exact absurd (hnone.symm.trans hentry) (by simp)

lemma Grown.entry_of_file (h : Grown t u) (hentry : u.entry? names = some (.file content)) :
    t.entry? names = some (.file content) := by
  rcases h.entry names with heq | ⟨-, hdir⟩
  · rw [← heq, hentry]
  · exact absurd (hdir.symm.trans hentry) (by simp)

lemma Grown.follow (h : Grown t u) : ∀ {names : List String},
    t.follow names parts = .ok place → u.follow names parts = .ok place := by
  induction parts with
  | nil => exact fun hplace => hplace
  | cons part parts ih =>
    intro names hplace
    obtain ⟨hdir, hrest⟩ := (follow_cons t names part parts).1 hplace
    exact (follow_cons u names part parts).2 ⟨h.entry_eq hdir, ih hrest⟩

lemma Grown.locate (h : Grown t u) (hplace : t.locate p = .ok place) : u.locate p = .ok place := by
  rw [FileTree.locate, h.workingDirectory]
  exact h.follow hplace

lemma Grown.leads (h : Grown t u) (hplace : t.Leads p place) : u.Leads p place :=
  ⟨h.locate hplace.1, h.entry_eq hplace.2⟩

/-- All files are read as before. -/
theorem Grown.read (h : Grown t u) (hname : IsName name)
    (hread : t.read (p.join name) = .ok content) : u.read (p.join name) = .ok content := by
  obtain ⟨place, hplace, hentry⟩ := exists_leads_of_read hname hread
  exact (h.leads hplace).read_join hname (h.entry_eq hentry)

lemma Grown.of_createDirectory (h : t.createDirectory p = .ok u) : Grown t u := by
  rw [createDirectory] at h
  split at h
  · exact absurd h (by simp)
  · split at h
    · exact absurd h (by simp)
    · next hnone =>
      obtain rfl := Except.ok.inj h
      exact .put_directory hnone

lemma Grown.of_orPresent {result : Except FileError FileTree} (hresult : result = .ok u → Grown t u)
    (h : t.orPresent p result = .ok u) : Grown t u := by
  simp only [orPresent] at h
  split at h
  · exact hresult h
  · split at h
    · obtain rfl := Except.ok.inj h
      exact .refl t
    · exact absurd h (by simp)

lemma Grown.of_createBelow {above : Except FileError FileTree}
    (habove : ∀ u, above = .ok u → Grown t u) (h : t.createBelow p above = .ok v) : Grown t v := by
  simp only [createBelow] at h
  split at h
  · split at h
    · next u => exact (habove u rfl).trans (of_orPresent of_createDirectory h)
    · exact absurd h (by simp)
  · exact of_orPresent of_createDirectory h

lemma Grown.of_createUpwards {absolute : Bool} : ∀ {u : FileTree},
    t.createUpwards absolute names = .ok u → Grown t u := by
  induction names with
  | nil =>
    intro u h
    obtain rfl := Except.ok.inj h
    exact .refl t
  | cons name names ih => exact fun h => of_createBelow (fun _ => ih) h

/-- Making directories makes nothing else. -/
theorem Grown.of_createDirectories (h : t.createDirectories p = .ok u) : Grown t u :=
  of_createBelow (fun _ => of_createUpwards) h

/-! ## Ways without files -/

/-- Where a path begins. -/
def start (t : FileTree) (p : Path) : List String := if p.absolute then [] else t.workingDirectory

/-- The places on the way of a path, from its beginning to its end. -/
def way (t : FileTree) (p : Path) : List (List String) := p.parts.scanl advance (t.start p)

/-- The place to which a path leads if all that is missing is made. -/
def goal (t : FileTree) (p : Path) : List String := p.parts.foldl advance (t.start p)

/-- The path begins in a directory, and no file stands on its way. -/
structure Clear (t : FileTree) (p : Path) : Prop where
  start : t.entry? (t.start p) = some .directory
  way : ∀ place ∈ t.way p, ∀ content, t.entry? place ≠ some (.file content)

lemma locate_eq (t : FileTree) (p : Path) :
    t.locate { p with trailingSlash := false } = t.follow (t.start p) p.parts := by
  simp only [locate, start, Bool.false_eq_true, if_false, List.append_nil]

lemma foldl_advance_of_follow : ∀ {names : List String},
    t.follow names parts = .ok place → parts.foldl advance names = place := by
  induction parts with
  | nil => exact fun h => Except.ok.inj h
  | cons part parts ih =>
    intro names h
    exact ih ((follow_cons t names part parts).1 h).2

/-- The place that a path leads to depends on nothing but where it begins. -/
lemma goal_of_leads (h : t.Leads p place) : t.goal p = place := by
  have hplace := h.1
  rw [locate_eq] at hplace
  exact foldl_advance_of_follow hplace

/-- Where no file stands on the way, nothing but a gap can be in it. -/
lemma follow_of_clear : ∀ {names : List String},
    (∀ place ∈ parts.scanl advance names, ∀ content, t.entry? place ≠ some (.file content)) →
      t.follow names parts = .ok (parts.foldl advance names) ∨
        t.follow names parts = .error .notFound := by
  induction parts with
  | nil => exact fun _ => .inl rfl
  | cons part parts ih =>
    intro names h
    rw [List.scanl_cons] at h
    obtain ⟨hnames, hparts⟩ := List.forall_mem_cons.1 h
    rw [follow]
    split
    · exact .inr rfl
    · next content hfile => exact absurd hfile (hnames content)
    · exact ih hparts

lemma Clear.locate (h : t.Clear p) :
    t.locate { p with trailingSlash := false } = .ok (t.goal p) ∨
      t.locate { p with trailingSlash := false } = .error .notFound := by
  rw [locate_eq]
  exact follow_of_clear h.way

lemma goal_mem_way : t.goal p ∈ t.way p := by
  rw [way, goal]
  generalize t.start p = names
  induction p.parts generalizing names with
  | nil => simp
  | cons part parts ih =>
    rw [List.scanl_cons, List.foldl_cons]
    exact List.mem_cons_of_mem _ (ih _)

lemma Grown.start_eq (h : Grown t u) (p : Path) : u.start p = t.start p := by
  rw [FileTree.start, FileTree.start, h.workingDirectory]

lemma Clear.grown (h : t.Clear p) (hgrown : Grown t u) : u.Clear p where
  start := by
    rw [hgrown.start_eq]
    exact hgrown.entry_eq h.start
  way := by
    intro place hplace content hfile
    rw [FileTree.way, hgrown.start_eq] at hplace
    exact h.way place hplace content (hgrown.entry_of_file hfile)

/-- A new file elsewhere is not on the way. -/
lemma Clear.put (h : t.Clear p) (hfree : t.entry? key ≠ some .directory) (hkey : key ∉ t.way p) :
    (t.put key entry).Clear p where
  start := by
    have hne : t.start p ≠ key := by
      rintro rfl
      exact hfree h.start
    exact (entry?_put (ne_nil_of_free hfree)).trans ((if_neg hne).trans h.start)
  way := by
    intro place hplace content
    have hne : place ≠ key := by
      rintro rfl
      exact hkey hplace
    rw [entry?_put (ne_nil_of_free hfree), if_neg hne]
    exact h.way place hplace content

/-! ## Making directories -/

/-- The last directory of a path is there or can be made, whatever was made on the way to it. -/
lemma Clear.exists_orPresent (h : t.Clear p) (hgrown : Grown t u)
    (hlocate : u.locate { p with trailingSlash := false } = .ok (t.goal p)) :
    ∃ v, u.orPresent p (u.createDirectory p) = .ok v ∧ Grown t v ∧ v.Leads p (t.goal p) := by
  cases hentry : u.entry? (t.goal p) with
  | none =>
    have hfree : u.entry? (t.goal p) ≠ some .directory := by simp [hentry]
    refine ⟨u.put (t.goal p) .directory, ?_, hgrown.trans (.put_directory hentry), ?_⟩
    · simp only [createDirectory, hlocate, hentry, orPresent]
      rfl
    · refine ⟨follow_put hfree hlocate, ?_⟩
      rw [entry?_put (ne_nil_of_free hfree), if_pos rfl]
  | some entry =>
    cases entry with
    | file content =>
      exact absurd (hgrown.entry_of_file hentry) (h.way _ goal_mem_way content)
    | directory =>
      have hleads : u.Leads p (t.goal p) := ⟨hlocate, hentry⟩
      refine ⟨u, ?_, hgrown, hleads⟩
      simp only [createDirectory, hlocate, hentry, orPresent, hleads.isDirectory, if_true]

/-- A directory can be made once those above it are made. -/
lemma Clear.exists_createBelow (h : t.Clear p) (hparts : p.parts = parts ++ [name])
    (hgrown : Grown t u) (hplace : u.follow (t.start p) parts = .ok place)
    (hdir : u.entry? place = some .directory) :
    ∃ v, t.createBelow p (.ok u) = .ok v ∧ Grown t v ∧ v.Leads p (t.goal p) := by
  rcases h.locate with hlocate | hmissing
  · obtain ⟨v, hv, hrest⟩ := h.exists_orPresent (.refl t) hlocate
    refine ⟨v, ?_, hrest⟩
    rw [createBelow]
    split
    · next hnot =>
      -- The way is there, so a directory is not missing.
      simp only [createDirectory, hlocate] at hnot
      split at hnot
      · exact absurd hnot (by simp)
      · exact absurd hnot (by simp)
    · exact hv
  · have hlocate : u.locate { p with trailingSlash := false } = .ok (t.goal p) := by
      have hadvance : advance place name = t.goal p := by
        rw [goal, hparts, List.foldl_append, foldl_advance_of_follow hplace]
        rfl
      rw [locate_eq, hgrown.start_eq, hparts]
      exact (follow_concat name).2 ⟨place, hplace, hdir, hadvance⟩
    obtain ⟨v, hv, hrest⟩ := h.exists_orPresent hgrown hlocate
    refine ⟨v, ?_, hrest⟩
    have hnot : t.createDirectory p = .error .notFound := by
      simp only [createDirectory, hmissing]
    simp only [createBelow, hnot]
    exact hv

/-- The way to a place above is the same, only shorter. -/
lemma Clear.above {absolute trailingSlash : Bool}
    (h : t.Clear { absolute, parts := parts ++ [name], trailingSlash }) :
    t.Clear { absolute, parts } where
  start := h.start
  way := by
    intro place hplace
    refine h.way place ?_
    rw [FileTree.way, List.scanl_append]
    exact List.mem_append_left _ hplace

/-- The directories above are made from the first one on. -/
lemma Clear.exists_createUpwards {absolute : Bool} (h : t.Clear { absolute, parts }) :
    ∃ u, t.createUpwards absolute parts.reverse = .ok u ∧ Grown t u ∧
      u.Leads { absolute, parts } (t.goal { absolute, parts }) := by
  induction parts using List.reverseRecOn with
  | nil => exact ⟨t, rfl, .refl t, (locate_eq t _).trans rfl, h.start⟩
  | append_singleton parts name ih =>
    obtain ⟨u, hu, hgrown, hleads⟩ := ih h.above
    have hplace := (locate_eq u _).symm.trans hleads.1
    rw [hgrown.start_eq] at hplace
    have hreverse : (parts ++ [name]).reverse = name :: parts.reverse := List.reverse_concat
    rw [hreverse, createUpwards, hu, List.reverse_cons, List.reverse_reverse]
    exact h.exists_createBelow rfl hgrown hplace hleads.2

/-! ## Parts that stay -/

lemma isDirectory_of_follow (h : t.follow names parts = .ok place)
    (hdir : t.entry? place = some .directory) : t.entry? names = some .directory := by
  cases parts with
  | nil =>
    obtain rfl := Except.ok.inj h
    exact hdir
  | cons part parts => exact ((follow_cons t names part parts).1 h).1

/-- To follow a part that stays one has to be in a directory, which is so on the way to one. -/
lemma follow_filter : ∀ {names : List String},
    (t.follow names (parts.filter (· ≠ ".")) = .ok place ∧ t.entry? place = some .directory) ↔
      t.follow names parts = .ok place ∧ t.entry? place = some .directory := by
  induction parts with
  | nil => exact Iff.rfl
  | cons part parts ih =>
    intro names
    by_cases hpart : part = "."
    · subst hpart
      have hstay : advance names "." = names := rfl
      rw [List.filter_cons_of_neg (by simp), ih, follow_cons, hstay]
      exact ⟨fun h => ⟨⟨isDirectory_of_follow h.1 h.2, h.1⟩, h.2⟩, fun h => ⟨h.1.2, h.2⟩⟩
    · rw [List.filter_cons_of_pos (by simpa using hpart), follow_cons, follow_cons, and_assoc,
        and_assoc, ih]

lemma leads_plain : t.Leads p.plain place ↔ t.Leads p place := by
  rw [Leads, Leads, locate_eq, locate_eq]
  exact follow_filter

lemma foldl_advance_filter : ∀ {names : List String},
    (parts.filter (· ≠ ".")).foldl advance names = parts.foldl advance names := by
  induction parts with
  | nil => exact rfl
  | cons part parts ih =>
    intro names
    by_cases hpart : part = "."
    · subst hpart
      rw [List.filter_cons_of_neg (by simp), ih]
      rfl
    · rw [List.filter_cons_of_pos (by simpa using hpart), List.foldl_cons, List.foldl_cons, ih]

lemma goal_plain : t.goal p.plain = t.goal p := foldl_advance_filter

lemma scanl_filter_subset : ∀ {names : List String},
    (parts.filter (· ≠ ".")).scanl advance names ⊆ parts.scanl advance names := by
  induction parts with
  | nil => exact fun {names} => List.Subset.refl _
  | cons part parts ih =>
    intro names
    by_cases hpart : part = "."
    · subst hpart
      rw [List.filter_cons_of_neg (by simp), List.scanl_cons]
      exact fun place hplace => List.mem_cons_of_mem _ (ih hplace)
    · rw [List.filter_cons_of_pos (by simpa using hpart), List.scanl_cons, List.scanl_cons]
      exact List.cons_subset_cons _ ih

lemma Clear.plain (h : t.Clear p) : t.Clear p.plain where
  start := h.start
  way := fun place hplace => h.way place (scanl_filter_subset hplace)

/-- **A directory can be made if no file stands in the way.** -/
theorem Clear.exists_createDirectories (h : t.Clear p) (hlast : p.parts.getLast? ≠ some ".") :
    ∃ u, t.createDirectories p = .ok u ∧ Grown t u ∧ u.Leads p (t.goal p) := by
  obtain ⟨absolute, parts, trailingSlash⟩ := p
  cases parts using List.reverseRecOn with
  | nil =>
    -- The path stays where it begins.
    have hleads : t.Leads { absolute, parts := [], trailingSlash }
        (t.start { absolute, parts := [] }) := ⟨(locate_eq t _).trans rfl, h.start⟩
    exact ⟨t, hleads.createDirectories, .refl t, hleads⟩
  | append_singleton parts last =>
    have hlast : last ≠ "." := by simpa using hlast
    have hplain : ({ absolute, parts := parts ++ [last], trailingSlash } :
        Path).plain.parts.dropLast = parts.filter (· ≠ ".") := by
      simp [Path.plain, hlast]
    obtain ⟨u, hu, hgrown, hleads⟩ := h.above.plain.exists_createUpwards
    obtain ⟨hlocate, hdir⟩ := leads_plain.1 hleads
    rw [locate_eq, hgrown.start_eq] at hlocate
    rw [createDirectories, hplain, hu]
    exact h.exists_createBelow rfl hgrown hlocate hdir

/-- The directory that a path means without its parts that stay is made in any case. -/
theorem Clear.exists_createDirectories_plain (h : t.Clear p.plain) :
    ∃ u, t.createDirectories p.plain = .ok u ∧ Grown t u ∧ u.Leads p (t.goal p) := by
  have hlast : p.plain.parts.getLast? ≠ some "." := by
    intro hlast
    have hmem := List.mem_of_getLast? hlast
    simp [Path.plain] at hmem
  obtain ⟨u, hu, hgrown, hleads⟩ := h.exists_createDirectories hlast
  rw [goal_plain] at hleads
  exact ⟨u, hu, hgrown, leads_plain.1 hleads⟩

end DocSearch.FileTree
