import DocSearch.Proofs.Storage.FileTree
import DocSearch.Storage.IndexFiles

/-!
# Saves that come to a halt

A save can come to a halt after each of its steps and within one that fills a file (`Halted`), and a
save that fails is one of these (`exists_halted`). Since the files are written one after the other,
those in front are complete then, those behind are as before, and the one in between may hold any
part of its content (`reached_of_halted`).
-/

namespace DocSearch

namespace SaveStep

open FileTree

variable {t u : FileTree} {root p : Path} {name : String} {names : List String} {content : Bytes}
  {step : SaveStep} {steps done : List SaveStep} {files : List (String × Bytes)} {k : Nat}

lemma performAll_cons : performAll t (step :: steps) = (.ok (), u) ↔
    ∃ v, step.perform t = .ok v ∧ performAll v steps = (.ok (), u) := by
  rw [performAll]
  cases step.perform t with
  | error e => simp
  | ok v => simp

/-! ## Halting -/

/-- What was done when some steps came to a halt, and how many of them were completed. -/
inductive Halted : List SaveStep → Nat → List SaveStep → Prop
  /-- The next step has not begun. -/
  | here (steps : List SaveStep) : Halted steps 0 []
  /-- A part of the content has got into the file. -/
  | within (p : Path) {content : Bytes} {n : Nat} (steps : List SaveStep)
      (hn : n < content.length) : Halted (.fill p content :: steps) 0 [.fill p (content.take n)]
  /-- One more step was completed. -/
  | later (step : SaveStep) {steps done : List SaveStep} {k : Nat} (h : Halted steps k done) :
      Halted (step :: steps) (k + 1) (step :: done)

lemma halted_take (hk : k ≤ steps.length) : Halted steps k (steps.take k) := by
  induction steps generalizing k with
  | nil =>
    obtain rfl : k = 0 := Nat.le_zero.1 hk
    exact .here []
  | cons step steps ih =>
    cases k with
    | zero => exact .here _
    | succ k => exact (ih (Nat.le_of_succ_le_succ hk)).later step

lemma halted_all (steps : List SaveStep) : Halted steps steps.length steps := by
  simpa only [List.take_length] using halted_take (Nat.le_refl steps.length)

lemma Halted.le_length (h : Halted steps k done) : k ≤ steps.length := by
  induction h with
  | here => exact Nat.zero_le _
  | within => exact Nat.zero_le _
  | later step _ ih => exact Nat.succ_le_succ ih

/-- Steps come to a halt in front of the first that fails. -/
theorem exists_halted (steps : List SaveStep) : ∀ t : FileTree,
    ∃ k done, Halted steps k done ∧ performAll t done = (.ok (), (performAll t steps).2) := by
  induction steps with
  | nil => exact fun t => ⟨0, [], .here [], rfl⟩
  | cons step steps ih =>
    intro t
    cases hstep : step.perform t with
    | error e => exact ⟨0, [], .here _, by simp only [performAll, hstep]⟩
    | ok v =>
      obtain ⟨k, done, hhalted, hdone⟩ := ih v
      refine ⟨k + 1, step :: done, hhalted.later step, ?_⟩
      simp only [performAll, hstep, hdone]

/-! ## Writing the files of a directory -/

/-- The step gives a file a content. -/
def Writes (step : SaveStep) (p : Path) (content : Bytes) : Prop :=
  ∀ t, step.perform t = t.write p content

/-- The steps that write some files of a directory one after the other. -/
def putAll (root : Path) (files : List (String × Bytes)) : List SaveStep :=
  files.flatMap fun (name, content) => [.create (root.join name), .fill (root.join name) content]

lemma Halted.exists_writes (h : Halted (putAll root files) k done) (hstep : step ∈ done) :
    ∃ name ∈ files.map Prod.fst, ∃ content, step.Writes (root.join name) content := by
  induction files generalizing k done with
  | nil =>
    cases h with
    | here => exact absurd hstep List.not_mem_nil
  | cons file files ih =>
    obtain ⟨name, content⟩ := file
    have hname : name ∈ ((name, content) :: files).map Prod.fst := List.mem_cons_self
    cases h with
    | here => exact absurd hstep List.not_mem_nil
    | later _ h =>
      obtain rfl | hstep := List.mem_cons.1 hstep
      · exact ⟨name, hname, [], fun t => rfl⟩
      cases h with
      | here => exact absurd hstep List.not_mem_nil
      | within _ _ hn =>
        obtain rfl := List.mem_singleton.1 hstep
        exact ⟨name, hname, _, fun t => rfl⟩
      | later _ h =>
        obtain rfl | hstep := List.mem_cons.1 hstep
        · exact ⟨name, hname, content, fun t => rfl⟩
        · obtain ⟨other, hother, hwrites⟩ := ih h hstep
          exact ⟨other, List.mem_cons_of_mem _ hother, hwrites⟩

/-- Steps that write other files of the directory leave a file alone. -/
lemma read_of_performAll (hname : IsName name) (hnames : ∀ other ∈ names, IsName other)
    (hnot : name ∉ names)
    (hsteps : ∀ step ∈ steps, ∃ other ∈ names, ∃ content, step.Writes (root.join other) content)
    (h : performAll t steps = (.ok (), u)) : u.read (root.join name) = t.read (root.join name) := by
  induction steps generalizing t with
  | nil =>
    obtain rfl := (Prod.mk.inj h).2
    rfl
  | cons step steps ih =>
    obtain ⟨⟨other, hother, content, hwrites⟩, hsteps⟩ := List.forall_mem_cons.1 hsteps
    obtain ⟨v, hv, hrest⟩ := performAll_cons.1 h
    rw [hwrites t] at hv
    have hne : name ≠ other := by
      rintro rfl
      exact hnot hother
    rw [ih hsteps hrest, read_of_write_of_ne (hnames other hother) hname hne hv]

/-- What has become of a file when so many of its two steps were completed. -/
def Reached (content : Bytes) (before after : Except FileError Bytes) : Nat → Prop
  | 0 => after = before
  | 1 => ∃ n < content.length, after = .ok (content.take n)
  | _ + 2 => after = .ok content

/-- The first file is dealt with before the others. -/
lemma exists_of_halted_cons (hname : IsName name) (hpos : 0 < content.length)
    (h : Halted (putAll root ((name, content) :: files)) k done)
    (hrun : performAll t done = (.ok (), u)) :
    ∃ v rest, Reached content (t.read (root.join name)) (v.read (root.join name)) k ∧
      (∀ other, IsName other → other ≠ name →
        v.read (root.join other) = t.read (root.join other)) ∧
      Halted (putAll root files) (k - 2) rest ∧ performAll v rest = (.ok (), u) := by
  cases h with
  | here => exact ⟨t, [], rfl, fun _ _ _ => rfl, .here _, hrun⟩
  | later _ h =>
    obtain ⟨v, hv, hrun⟩ := performAll_cons.1 hrun
    have hv' : ∀ other, IsName other → other ≠ name →
        v.read (root.join other) = t.read (root.join other) :=
      fun _ hother hne => read_of_write_of_ne hname hother hne hv
    cases h with
    | here => exact ⟨v, [], ⟨0, hpos, read_of_write_self hname hv⟩, hv', .here _, hrun⟩
    | within _ _ hn =>
      obtain ⟨w, hw, hrun⟩ := performAll_cons.1 hrun
      refine ⟨w, [], ⟨_, hn, read_of_write_self hname hw⟩, fun other hother hne => ?_, .here _,
        hrun⟩
      exact (read_of_write_of_ne hname hother hne hw).trans (hv' other hother hne)
    | later _ h =>
      obtain ⟨w, hw, hrun⟩ := performAll_cons.1 hrun
      refine ⟨w, _, read_of_write_self hname hw, fun other hother hne => ?_, h, hrun⟩
      exact (read_of_write_of_ne hname hother hne hw).trans (hv' other hother hne)

/-- At a halt the files in front are complete, and those behind are as before. -/
theorem reached_of_halted (hdistinct : (files.map Prod.fst).Nodup)
    (hfiles : ∀ file ∈ files, IsName file.1 ∧ 0 < file.2.length)
    (h : Halted (putAll root files) k done) (hrun : performAll t done = (.ok (), u)) {i : Nat}
    (hi : files[i]? = some (name, content)) :
    Reached content (t.read (root.join name)) (u.read (root.join name)) (k - 2 * i) := by
  induction files generalizing t k done i with
  | nil => exact absurd hi (by simp)
  | cons file files ih =>
    obtain ⟨first, firstContent⟩ := file
    obtain ⟨hnot, hdistinct⟩ := List.nodup_cons.1 hdistinct
    obtain ⟨⟨hfirst, hpos⟩, hfiles⟩ := List.forall_mem_cons.1 hfiles
    obtain ⟨v, rest, hreached, hothers, hrest, hrun⟩ := exists_of_halted_cons hfirst hpos h hrun
    cases i with
    | zero =>
      -- What is done after it concerns other files.
      obtain ⟨rfl, rfl⟩ := Prod.mk.inj (Option.some.inj hi)
      have hnames : ∀ other ∈ files.map Prod.fst, IsName other := by
        intro other hother
        obtain ⟨file, hfile, rfl⟩ := List.mem_map.1 hother
        exact (hfiles file hfile).1
      rwa [read_of_performAll hfirst hnames hnot (fun step => hrest.exists_writes) hrun]
    | succ i =>
      have hmem : (name, content) ∈ files := List.mem_of_getElem? hi
      have hne : name ≠ first := by
        rintro rfl
        exact hnot (List.mem_map.2 ⟨_, hmem, rfl⟩)
      have hlater := ih hdistinct hfiles hrest hrun hi
      rw [hothers name (hfiles _ hmem).1 hne] at hlater
      rwa [show k - 2 * (i + 1) = k - 2 - 2 * i by omega]

/-- The files have their contents. -/
def Complete (t : FileTree) (root : Path) (files : List (String × Bytes)) : Prop :=
  ∀ file ∈ files, t.read (root.join file.1) = .ok file.2

lemma complete_of_reached (hk : 2 * files.length ≤ k)
    (h : ∀ i name content, files[i]? = some (name, content) →
      Reached content (t.read (root.join name)) (u.read (root.join name)) (k - 2 * i)) :
    Complete u root files := by
  rintro ⟨name, content⟩ hfile
  obtain ⟨i, hi⟩ := List.mem_iff_getElem?.1 hfile
  have hlt : i < files.length := (List.getElem?_eq_some_iff.1 hi).1
  have hreached := h i name content hi
  rwa [show k - 2 * i = (k - 2 * i - 2) + 2 by omega] at hreached

/-! ## Directories whose files can be written -/

/-- The path leads to a directory, and no directories stand where the files belong. -/
def Writable (t : FileTree) (root : Path) (names : List String) : Prop :=
  ∃ place, t.Leads root place ∧
    ∀ name ∈ names, IsName name ∧ t.entry? (place ++ [name]) ≠ some .directory

/-- Files that can be read are in a directory where they can be written. -/
lemma Writable.of_read {first : String} (hfirst : first ∈ names)
    (h : ∀ name ∈ names, IsName name ∧ ∃ content, t.read (root.join name) = .ok content) :
    Writable t root names := by
  obtain ⟨hisName, content, hread⟩ := h first hfirst
  obtain ⟨place, hplace, -⟩ := exists_leads_of_read hisName hread
  refine ⟨place, hplace, fun name hname => ?_⟩
  obtain ⟨hisName, content, hread⟩ := h name hname
  obtain ⟨other, hother, hentry⟩ := exists_leads_of_read hisName hread
  refine ⟨hisName, ?_⟩
  rw [hplace.eq hother, hentry]
  simp

lemma Writable.exists_write (h : Writable t root names) (hname : name ∈ names) (content : Bytes) :
    ∃ u, t.write (root.join name) content = .ok u ∧ Writable u root names := by
  obtain ⟨place, hplace, hnames⟩ := h
  obtain ⟨hisName, hfree⟩ := hnames name hname
  refine ⟨_, hplace.write_join hisName hfree content, place, hplace.put hfree, ?_⟩
  intro other hother
  refine ⟨(hnames other hother).1, ?_⟩
  rw [entry?_put (ne_nil_of_free hfree)]
  split
  · simp
  · exact (hnames other hother).2

lemma Writable.exists_performAll (h : Writable t root names)
    (hsteps : ∀ step ∈ steps, ∃ name ∈ names, ∃ content, step.Writes (root.join name) content) :
    ∃ u, performAll t steps = (.ok (), u) := by
  induction steps generalizing t with
  | nil => exact ⟨t, rfl⟩
  | cons step steps ih =>
    obtain ⟨⟨name, hname, content, hwrites⟩, hsteps⟩ := List.forall_mem_cons.1 hsteps
    obtain ⟨v, hv, hwritable⟩ := h.exists_write hname content
    obtain ⟨u, hu⟩ := ih hwritable hsteps
    exact ⟨u, performAll_cons.2 ⟨v, by rw [hwrites t, hv], hu⟩⟩

end SaveStep

end DocSearch
