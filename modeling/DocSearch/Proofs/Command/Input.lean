import Mathlib.Data.List.Induction
import DocSearch.Proofs.Command.Transition
import DocSearch.Proofs.Ingest.Basic

/-!
# Inputs that are not there

A command reads its input if it builds an index in any case or finds none (`Command.ReadsInput`).
Commands that read nothing change no file, and a command whose input cannot be read fails and
changes nothing. A path that leads to nothing is no such input, since it has no documents
(`Ingest.documents_of_missing`): its empty index is put in place, and from then on it is the index
that every command finds (`Command.inputLaw_unless_missing`).
-/

namespace DocSearch

open FileTree

/-! ## Growing workspaces -/

namespace Workspace

variable {w : Workspace} {index : IndexChoice} {input : Option String} {c : Corpus Binary64}

lemma grown_openDatabase (w : Workspace) (path : String) :
    Grown w.files (w.openDatabase path).2.files := by
  rw [openDatabase]
  split
  · exact .refl _
  · next files hfiles =>
    have hgrown := Grown.of_createDirectories hfiles
    split
    · exact hgrown
    · exact hgrown

lemma grown_openRecommender (w : Workspace) (ratings : RatingChoice) (c : Corpus Binary64) :
    Grown w.files (w.openRecommender ratings c).2.files :=
  w.grown_openDatabase ratings.path

/-- New directories do not change what is loaded. -/
lemma load_indexFiles_grown {w' : Workspace} {path : String} {s : Snapshot}
    (h : (w.indexFiles path).load = .ok (some s)) (hgrown : Grown w.files w'.files) :
    (w'.indexFiles path).load = .ok (some s) := by
  have hload := IndexFiles.load_grown h hgrown
  simp only [indexFiles] at hload ⊢
  exact hload

end Workspace

namespace Command

open Workspace

variable {w : Workspace} {c : Command} {course : List TimedCommand} {s : Snapshot} {path : String}
  {place : List String} {content : Bytes}

/-- The index of the command. -/
def index : Command → IndexChoice
  | build _ index => index
  | query _ _ _ _ index _ _ => index
  | rate _ _ index _ _ => index
  | recommend _ index _ _ => index

/-- The input of the command, if it has one. -/
def input? : Command → Option String
  | build input _ => some input
  | query _ _ _ _ _ input _ => input
  | rate _ _ _ input _ => input
  | recommend _ _ input _ => input

lemma documents_eq (w : Workspace) (c : Command) :
    c.documents w = w.documents c.index.analyzer c.input? := by
  cases c <;> rfl

lemma grown_runExtended (w : Workspace) (corpus : Corpus Binary64) (text : String) (limit : Nat)
    (pseudoFeedback : Option Nat) (index : IndexChoice) (ratings : RatingChoice) :
    Grown w.files (runExtended w corpus text limit pseudoFeedback index ratings).2.files := by
  have hgrown := w.grown_openRecommender ratings corpus
  rw [runExtended]
  -- what opening does besides is of no matter, and would be unfolded in every branch
  generalize w.openRecommender ratings corpus = opened at hgrown ⊢
  obtain ⟨opened, w'⟩ := opened
  cases opened with
  | error e => exact hgrown
  | ok opened =>
    simp only
    split
    · exact hgrown
    · split
      · exact hgrown
      · exact hgrown

/-- Beyond opening an index, commands only make directories. -/
lemma grown_run {opened : Except Error (Corpus Binary64)} {w' : Workspace} (hc : ¬c.IsBuild)
    (h : w.openIndex c.index c.input? = (opened, w')) : Grown w'.files (run w c).2.files := by
  cases c with
  | build input index => exact absurd trivial hc
  | query text kind limit pseudoFeedback index input ratings =>
    rw [Command.index, input?] at h
    rw [run, runQuery, h]
    cases opened with
    | error e => exact .refl _
    | ok corpus =>
      simp only
      split
      · exact grown_runExtended _ _ _ _ _ _ _
      · split
        · exact .refl _
        · exact .refl _
  | rate id rating index input ratings =>
    rw [Command.index, input?] at h
    rw [run, runRate, h]
    cases opened with
    | error e => exact .refl _
    | ok corpus =>
      have hgrown := w'.grown_openRecommender ratings corpus
      simp only
      generalize w'.openRecommender ratings corpus = opened at hgrown ⊢
      obtain ⟨opened, w''⟩ := opened
      cases opened with
      | error e => exact hgrown
      | ok opened =>
        simp only
        split
        · exact hgrown
        · split
          · exact hgrown
          · exact hgrown
  | recommend limit index input ratings =>
    rw [Command.index, input?] at h
    rw [run, runRecommend, h]
    cases opened with
    | error e => exact .refl _
    | ok corpus =>
      have hgrown := w'.grown_openRecommender ratings corpus
      simp only
      generalize w'.openRecommender ratings corpus = opened at hgrown ⊢
      obtain ⟨opened, w''⟩ := opened
      cases opened with
      | error e => exact hgrown
      | ok opened => exact hgrown

/-- A command that cannot open its index fails and leaves what opening left. -/
lemma run_of_openIndex_error {e : Error} {w' : Workspace} (hc : ¬c.IsBuild)
    (h : w.openIndex c.index c.input? = (.error e, w')) :
    (run w c).1.code = 1 ∧ (run w c).2 = w' := by
  cases c with
  | build input index => exact absurd trivial hc
  | query text kind limit pseudoFeedback index input ratings =>
    rw [Command.index, input?] at h
    simp [run, runQuery, h, Report.failed]
  | rate id rating index input ratings =>
    rw [Command.index, input?] at h
    simp [run, runRate, h, Report.failed]
  | recommend limit index input ratings =>
    rw [Command.index, input?] at h
    simp [run, runRecommend, h, Report.failed]

/-! ## Commands that read their input -/

/-- The command builds an index from its input. -/
def ReadsInput (w : Workspace) (c : Command) : Prop :=
  c.IsBuild ∨ (w.indexFiles c.index.path).load = .ok none

/-- A command that does not read its input changes no file. -/
lemma grown_run_of_not_readsInput (h : ¬c.ReadsInput w) : Grown w.files (run w c).2.files := by
  obtain ⟨hbuild, hnone⟩ := not_or.1 h
  cases hload : IndexStore.load (w.indexFiles c.index.path) with
  | error e =>
    have hopen : w.openIndex c.index c.input? = (.error e, w) := by
      simp only [openIndex, Corpus.obtain, hload]
      rfl
    exact grown_run hbuild hopen
  | ok old =>
    cases old with
    | none => exact absurd hload hnone
    | some s =>
      have hopen : w.openIndex c.index c.input? = (Corpus.ofSnapshot s, w) := by
        rw [openIndex, Corpus.obtain_of_load hload]
        rfl
      exact grown_run hbuild hopen

/-- A command that finds no corpus in its input fails and changes nothing. -/
lemma run_of_source_error {e : Error} (h : c.ReadsInput w)
    (he : (c.documents w).bind (Corpus.build : _ → Except Error (Corpus Binary64)) = .error e) :
    (run w c).1.code = 1 ∧ (run w c).2 = w := by
  by_cases hbuild : c.IsBuild
  · cases c with
    | build input index =>
      rw [documents] at he
      simp [run, runBuild, buildIndex, he, Report.failed]
    | _ => exact absurd hbuild id
  · rw [documents_eq] at he
    refine run_of_openIndex_error (e := e) hbuild ?_
    rw [openIndex, Corpus.obtain_of_bind_error (h.resolve_left hbuild) he]
    rfl

lemma run_build_of_source {input : String} {index : IndexChoice} {corpus : Corpus Binary64}
    {f : IndexFiles}
    (hcorpus : (w.documents index.analyzer (some input)).bind Corpus.build = .ok corpus)
    (hsave : (w.indexFiles index.path).save corpus.snapshot = (.ok (), f)) :
    (run w (build input index)).1.code = 0 ∧
      (run w (build input index)).2 = { w with files := f.tree } := by
  simp [run, runBuild, buildIndex, hcorpus, Corpus.saveTo, IndexStore.save, hsave, Except.map,
    Report.success]

/-- A command that finds a corpus in its input puts its index in place and then only makes
directories. -/
lemma grown_run_of_source {corpus : Corpus Binary64} {f : IndexFiles} (h : c.ReadsInput w)
    (hcorpus : (c.documents w).bind Corpus.build = .ok corpus)
    (hsave : (w.indexFiles c.index.path).save corpus.snapshot = (.ok (), f)) :
    Grown f.tree (run w c).2.files := by
  by_cases hbuild : c.IsBuild
  · cases c with
    | build input index =>
      rw [(run_build_of_source hcorpus hsave).2]
      exact .refl _
    | _ => exact absurd hbuild id
  · rw [documents_eq] at hcorpus
    have hopen : w.openIndex c.index c.input? = (.ok corpus, { w with files := f.tree }) := by
      rw [openIndex, Corpus.obtain_of_save (h.resolve_left hbuild) hcorpus hsave]
    exact grown_run hbuild hopen

/-- An index stays what it is if no command builds it anew. -/
lemma load_run (hload : (w.indexFiles path).load = .ok (some s))
    (hc : ¬c.IsBuild ∧ c.index.path = path) :
    ((run w c).2.indexFiles path).load = .ok (some s) := by
  obtain ⟨hbuild, rfl⟩ := hc
  have hnot : ¬c.ReadsInput w := by
    rintro (h | h)
    · exact hbuild h
    · exact absurd (hload.symm.trans h) (by simp)
  exact load_indexFiles_grown hload (grown_run_of_not_readsInput hnot)

/-- The workspace after several commands. -/
def runAll (w : Workspace) (course : List TimedCommand) : Workspace :=
  course.foldl (fun w t => (t.run w).2) w

lemma load_runAll (hload : (w.indexFiles path).load = .ok (some s))
    (hcourse : ∀ t ∈ course, ¬t.command.IsBuild ∧ t.command.index.path = path) :
    ((runAll w course).indexFiles path).load = .ok (some s) := by
  induction course generalizing w with
  | nil => exact hload
  | cons t course ih =>
    obtain ⟨ht, hcourse⟩ := List.forall_mem_cons.1 hcourse
    have hload' : ((w.setTime t.now).indexFiles path).load = .ok (some s) := hload
    exact ih (load_run hload' ht) hcourse

/-! ## Missing inputs -/

/-- The input leads to a file or a directory. -/
def HasInput (w : Workspace) (c : Command) : Prop :=
  ∃ input, c.input? = some input ∧ w.files.lookup (Path.ofText input) ≠ none

/-- The command reads an input that leads to nothing. -/
def ReadsMissing (w : Workspace) (c : Command) : Prop :=
  c.ReadsInput w ∧ ∃ input, c.input? = some input ∧ w.files.lookup (Path.ofText input) = none

/-- A file is new or has another content than before. -/
def ChangesFile (w : Workspace) (c : Command) : Prop :=
  ∃ place content, (run w c).2.files.entry? place = some (.file content) ∧
    w.files.entry? place ≠ some (.file content)

/-- What a command should do about its input. -/
structure InputLaw (w : Workspace) (c : Command) : Prop where
  /-- A command that writes an index has an input that is there. -/
  present : c.ChangesFile w → c.HasInput w
  /-- A command that would have to read another one fails and leaves everything as it was, so that
  later commands find what they would have found without it. -/
  fails : c.ReadsInput w → ¬c.HasInput w → (run w c).1.code ≠ 0 ∧ (run w c).2 = w

/-- A command without an input has no documents. -/
lemma documents_of_noInput (h : c.input? = none) :
    (c.documents w).bind (Corpus.build : _ → Except Error (Corpus Binary64)) =
      .error (.io .noInput) := by
  rw [documents_eq, h]
  rfl

/-- A command that writes an index has read an input, if not one that is missing. -/
lemma ChangesFile.readsInput (h : c.ChangesFile w) :
    c.ReadsInput w ∧ (c.HasInput w ∨ c.ReadsMissing w) := by
  obtain ⟨place, content, hnew, hold⟩ := h
  have hreads : c.ReadsInput w := by
    by_contra hnot
    exact hold ((grown_run_of_not_readsInput hnot).entry_of_file hnew)
  refine ⟨hreads, ?_⟩
  cases hinput : c.input? with
  | none =>
    rw [(run_of_source_error hreads (documents_of_noInput hinput)).2] at hnew
    exact absurd hnew hold
  | some input =>
    by_cases hlookup : w.files.lookup (Path.ofText input) = none
    · exact .inr ⟨hreads, input, hinput, hlookup⟩
    · exact .inl ⟨input, hinput, hlookup⟩

/-- The law holds if no missing input is read. -/
lemma inputLaw_of_not_readsMissing (h : ¬c.ReadsMissing w) : InputLaw w c where
  present := fun hchanges => hchanges.readsInput.2.resolve_right h
  fails := by
    intro hreads hnot
    cases hinput : c.input? with
    | none =>
      obtain ⟨hcode, hsame⟩ := run_of_source_error hreads (documents_of_noInput hinput)
      rw [hcode, hsame]
      exact ⟨by decide, rfl⟩
    | some input =>
      refine absurd ⟨hreads, input, hinput, ?_⟩ h
      by_contra hsome
      exact hnot ⟨input, hinput, hsome⟩

lemma runAll_snoc (w : Workspace) (course : List TimedCommand) (t : TimedCommand) :
    runAll w (course ++ [t]) = (t.run (runAll w course)).2 := by
  rw [runAll, List.foldl_append]
  rfl

/-- What is new in a file after several commands was written by one that has read an input. -/
lemma exists_reader (hnew : (runAll w course).files.entry? place = some (.file content))
    (hold : w.files.entry? place ≠ some (.file content)) :
    ∃ before t behind, course = before ++ t :: behind ∧
      t.command.ReadsInput (runAll w before) ∧
      (t.command.HasInput (runAll w before) ∨ t.command.ReadsMissing (runAll w before)) := by
  induction course using List.reverseRecOn with
  | nil => exact absurd hnew hold
  | append_singleton course t ih =>
    by_cases hbefore : (runAll w course).files.entry? place = some (.file content)
    · obtain ⟨before, u, behind, rfl, hu⟩ := ih hbefore
      exact ⟨before, u, behind ++ [t], by simp, hu⟩
    · rw [runAll_snoc] at hnew
      have hchanges : t.command.ChangesFile ((runAll w course).setTime t.now) :=
        ⟨place, content, hnew, hbefore⟩
      exact ⟨course, t, [], rfl, hchanges.readsInput⟩

/-- A missing input has the corpus of no documents. -/
lemma ReadsMissing.exists_source (h : c.ReadsMissing w) :
    ∃ corpus : Corpus Binary64, (c.documents w).bind Corpus.build = .ok corpus ∧
      corpus.snapshot = {} := by
  obtain ⟨-, input, hinput, hnone⟩ := h
  have hdocuments : c.documents w = .ok [] := by
    rw [documents_eq, hinput]
    exact Ingest.documents_of_missing hnone
  obtain ⟨corpus, hcorpus⟩ : ∃ corpus : Corpus Binary64, Corpus.build [] = .ok corpus :=
    Corpus.exists_build List.nodup_nil
  refine ⟨corpus, by rw [hdocuments]; exact hcorpus, ?_⟩
  rw [Corpus.build_eq_ofSnapshot] at hcorpus
  exact Corpus.snapshot_of_ofSnapshot hcorpus

variable {old : Option Snapshot}

/-- The index of no documents can be saved. -/
lemma ReadsMissing.exists_saved (h : c.ReadsMissing w)
    (hold : (w.indexFiles c.index.path).Faultless old) :
    ∃ (corpus : Corpus Binary64) (u : FileTree),
      (c.documents w).bind Corpus.build = .ok corpus ∧
      (w.indexFiles c.index.path).save corpus.snapshot =
        (.ok (), { w.indexFiles c.index.path with tree := u }) ∧
      (({ w with files := u } : Workspace).indexFiles c.index.path).load = .ok (some {}) := by
  obtain ⟨corpus, hcorpus, hsnapshot⟩ := h.exists_source
  obtain ⟨u, hu, hfaultless, -⟩ := hold.savable.save IndexFiles.storable_empty (.refl _)
  refine ⟨corpus, u, hcorpus, ?_, hfaultless.load⟩
  rw [hsnapshot]
  exact hu

/-- The index of no documents is put in place. -/
lemma ReadsMissing.load_run (h : c.ReadsMissing w)
    (hold : (w.indexFiles c.index.path).Faultless old) :
    ((run w c).2.indexFiles c.index.path).load = .ok (some {}) := by
  obtain ⟨corpus, u, hcorpus, hsave, hload⟩ := h.exists_saved hold
  exact load_indexFiles_grown hload (grown_run_of_source h.1 hcorpus hsave)

lemma ReadsMissing.code_build (h : c.ReadsMissing w)
    (hold : (w.indexFiles c.index.path).Faultless old) (hbuild : c.IsBuild) :
    (run w c).1.code = 0 := by
  obtain ⟨corpus, u, hcorpus, hsave, -⟩ := h.exists_saved hold
  cases c with
  | build input index => exact (run_build_of_source hcorpus hsave).1
  | _ => exact absurd hbuild id

lemma ReadsMissing.not_inputLaw (h : c.ReadsMissing w)
    (hold : (w.indexFiles c.index.path).Faultless old) : ¬InputLaw w c := by
  intro hlaw
  have hnot : ¬c.HasInput w := by
    rintro ⟨other, hother, hsome⟩
    obtain ⟨-, input, hinput, hnone⟩ := h
    obtain rfl := Option.some.inj (hother.symm.trans hinput)
    exact hsome hnone
  obtain ⟨hcode, hsame⟩ := hlaw.fails h.1 hnot
  by_cases hbuild : c.IsBuild
  · exact hcode (h.code_build hold hbuild)
  · -- There was no index before.
    have hafter := h.load_run hold
    rw [hsame] at hafter
    exact absurd ((h.1.resolve_left hbuild).symm.trans hafter) (by simp)

/-- **Missing inputs are indexed.** In every workspace a command follows the law unless it reads an
input that leads to nothing, and whatever commands are carried out, what is new in a file was
written by one of them that has read an input, if not a missing one. Where nothing goes wrong in the
directory of the index, a command that reads a missing input breaks the law: it puts the index of no
documents in place, and whatever commands follow on this index, none but a build puts another one
there. -/
theorem inputLaw_unless_missing (w : Workspace) (c : Command) :
    (¬c.ReadsMissing w → InputLaw w c) ∧
    (∀ (course : List TimedCommand) (place : List String) (content : Bytes),
      (runAll w course).files.entry? place = some (.file content) →
      w.files.entry? place ≠ some (.file content) →
        ∃ before t behind, course = before ++ t :: behind ∧
          t.command.ReadsInput (runAll w before) ∧
          (t.command.HasInput (runAll w before) ∨ t.command.ReadsMissing (runAll w before))) ∧
    (c.ReadsMissing w → ∀ old, (w.indexFiles c.index.path).Faultless old →
      ¬InputLaw w c ∧
      ∀ course : List TimedCommand,
        (∀ t ∈ course, ¬t.command.IsBuild ∧ t.command.index.path = c.index.path) →
        ((runAll (run w c).2 course).indexFiles c.index.path).load = .ok (some {})) := by
  refine ⟨inputLaw_of_not_readsMissing, fun _ _ _ => exists_reader, fun h old hold => ?_⟩
  exact ⟨h.not_inputLaw hold, fun _ hcourse => load_runAll (h.load_run hold) hcourse⟩

lemma readsMissing_oneFile : (build "nope" {}).ReadsMissing oneFile :=
  ⟨.inl trivial, "nope", rfl, by decide +kernel⟩

theorem missing_input_stays_empty :
    (build "nope" {}).ReadsMissing oneFile ∧ (oneFile.indexFiles "./index").Faultless none ∧
      ((runAll (run oneFile (build "nope" {})).2
        [⟨"night", recommend 5 {} (some "d") {}⟩]).indexFiles "./index").load = .ok (some {}) := by
  refine ⟨readsMissing_oneFile, holds_oneFile.index, ?_⟩
  obtain ⟨-, -, hmissing⟩ := inputLaw_unless_missing oneFile (build "nope" {})
  obtain ⟨-, hstays⟩ := hmissing readsMissing_oneFile none holds_oneFile.index
  exact hstays [⟨"night", recommend 5 {} (some "d") {}⟩] (by simp [IsBuild, Command.index])

/-- Building an index from a path that leads to nothing is against the law. -/
theorem missing_input_indexed : ¬InputLaw oneFile (build "nope" {}) :=
  readsMissing_oneFile.not_inputLaw holds_oneFile.index

end Command

end DocSearch
