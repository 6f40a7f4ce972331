import DocSearch.Command.Run
import DocSearch.Proofs.Rating.Call
import DocSearch.Proofs.Storage.Opening
import DocSearch.Proofs.Storage.RatingDatabase
import DocSearch.Proofs.Storage.Stability

/-!
# What a workspace keeps for commands

Commands that work on the same index and the same ratings (`Site`) find what earlier ones have left:
a snapshot, if there is one, and the ratings (`Kept`). A workspace without faults holds these in its
files and databases (`Workspace.Holds`), and opening and changing them there comes to opening and
changing what is kept (`Holds.openIndex`, `Holds.openRecommender`, `Holds.setDatabase`).
-/

namespace DocSearch

/-- The index and the ratings that commands work on. -/
structure Site where
  /-- The directory of the index. -/
  index : String
  /-- The directory of the database and the name of the ratings in it. -/
  ratings : RatingChoice

/-- What is kept from one command to the next. -/
structure Kept where
  /-- The index, if there is one. -/
  index : Option Snapshot := none
  /-- The ratings. -/
  ratings : Ratings Binary64 := ∅

namespace Kept

/-- The corpus to work on: that of the index if there is one, else that of the source. -/
def corpus (k : Kept) (source : Except Error (List Document)) : Except Error (Corpus Binary64) :=
  match k.index with
  | some s => Corpus.ofSnapshot s
  | none => source.bind Corpus.build

/-- The index of a corpus has been put in place. -/
def withCorpus (k : Kept) (c : Corpus Binary64) : Kept := { k with index := some c.snapshot }

@[simp] lemma withCorpus_index (k : Kept) (c : Corpus Binary64) :
    (k.withCorpus c).index = some c.snapshot := rfl

@[simp] lemma withCorpus_ratings (k : Kept) (c : Corpus Binary64) :
    (k.withCorpus c).ratings = k.ratings := rfl

variable {k : Kept} {s : Snapshot} {c : Corpus Binary64} {source : Except Error (List Document)}

lemma corpus_of_some (hs : k.index = some s) : k.corpus source = Corpus.ofSnapshot s := by
  rw [corpus, hs]

lemma corpus_of_none (hnone : k.index = none) : k.corpus source = source.bind Corpus.build := by
  rw [corpus, hnone]

lemma snapshot_of_corpus (hs : k.index = some s) (hc : k.corpus source = .ok c) :
    c.snapshot = s := by
  rw [corpus_of_some hs] at hc
  exact Corpus.snapshot_of_ofSnapshot hc

/-- A corpus to work on is the one that its snapshot stands for. -/
lemma ofSnapshot_of_corpus (hc : k.corpus source = .ok c) :
    Corpus.ofSnapshot c.snapshot = .ok c := by
  cases hindex : k.index with
  | some s =>
    rw [snapshot_of_corpus hindex hc, ← hc, corpus_of_some hindex]
  | none =>
    rw [corpus_of_none hindex] at hc
    obtain ⟨ds, -, hds⟩ := bind_eq_ok_iff.1 hc
    exact Corpus.ofSnapshot_snapshot hds

end Kept

/-! ## Ratings without faults -/

namespace RatingDatabase

variable {d : RatingDatabase}

/-- The database has no faults and holds some ratings under a name. -/
structure Keeps (d : RatingDatabase) (space : String) (ratings : Ratings Binary64) : Prop where
  load : d.load space = .ok ratings
  fault : d.fault = none

/-- Ratings are added in memory as well as in the database. -/
lemma exists_addRatings (h : d.fault = none) (r : Recommender Binary64)
    (pairs : List (DocId × Binary64)) :
    ∃ e, r.addRatings d pairs = (.ok (), { r with ratings := r.ratings.addAll pairs }, e) ∧
      e.Keeps r.space (r.ratings.addAll pairs) := by
  refine ⟨_, ?_, load_put d r.space _, h⟩
  simp only [Recommender.addRatings, RatingStore.save, save, h]

end RatingDatabase

namespace Command

/-- The documents that the feedback for a ranking marks: the best one and the first `n`. -/
def marked (ranking : Ranking Binary64) (pseudoFeedback : Option Nat) : List DocId :=
  (ranking.take 1 ++ ranking.take (pseudoFeedback.getD 0)).map Prod.fst

/-- The ratings after documents were marked as relevant. -/
def mark (ratings : Ratings Binary64) (ids : List DocId) : Ratings Binary64 :=
  ratings.addAll (ids.map fun id => (id, Scalar.one))

lemma mark_append (ratings : Ratings Binary64) (ids more : List DocId) :
    mark ratings (ids ++ more) = mark (mark ratings ids) more :=
  ratings.markAll_append ids more

/-- Marked documents are rated with one, and the others as before. -/
lemma getElem?_mark (ratings : Ratings Binary64) (ids : List DocId) (id : DocId) :
    (mark ratings ids)[id]? = if id ∈ ids then some Scalar.one else ratings[id]? :=
  ratings.getElem?_markAll ids

/-- Feedback for a ranking marks its documents. -/
lemma exists_feedback {d : RatingDatabase} {r : Recommender Binary64}
    (h : d.Keeps r.space r.ratings) (ranking : Ranking Binary64) (pseudoFeedback : Option Nat) :
    ∃ e, feedback r d ranking pseudoFeedback =
        (.ok (), { r with ratings := mark r.ratings (marked ranking pseudoFeedback) }, e) ∧
      e.Keeps r.space (mark r.ratings (marked ranking pseudoFeedback)) := by
  have hfirst : ∃ e, r.recordFeedback d ranking =
      (.ok (), { r with ratings := mark r.ratings ((ranking.take 1).map Prod.fst) }, e) ∧
      e.Keeps r.space (mark r.ratings ((ranking.take 1).map Prod.fst)) := by
    cases ranking with
    | nil => exact ⟨d, rfl, h⟩
    | cons best ranking => exact RatingDatabase.exists_addRatings h.fault r _
  obtain ⟨e, he, hkeeps⟩ := hfirst
  cases pseudoFeedback with
  | none =>
    have hmarked : marked ranking none = (ranking.take 1).map Prod.fst := by simp [marked]
    rw [hmarked]
    exact ⟨e, by simp only [feedback, he], hkeeps⟩
  | some n =>
    obtain ⟨e', he', hkeeps'⟩ := RatingDatabase.exists_addRatings hkeeps.fault
      { r with ratings := mark r.ratings ((ranking.take 1).map Prod.fst) }
      ((ranking.take n).map fun (id, _) => (id, Scalar.one))
    have hmarked : mark r.ratings (marked ranking (some n)) =
        (mark r.ratings ((ranking.take 1).map Prod.fst)).addAll
          ((ranking.take n).map fun (id, _) => (id, Scalar.one)) := by
      rw [marked, List.map_append, mark_append, mark, List.map_map]
      rfl
    rw [hmarked]
    exact ⟨e', by simp only [feedback, he, Recommender.pseudoFeedback, he'], hkeeps'⟩

end Command

/-! ## Workspaces without faults -/

/-- The place of the database. -/
def Site.place (site : Site) (w : Workspace) : List String :=
  w.files.goal (Path.ofText site.ratings.path)

namespace Workspace

open SaveStep FileTree

variable {site : Site} {w : Workspace} {k : Kept} {c : Corpus Binary64} {index : IndexChoice}
  {input : Option String}

/-- Nothing goes wrong at the site, where the workspace holds what is kept. -/
structure Holds (site : Site) (w : Workspace) (k : Kept) : Prop where
  index : (w.indexFiles site.index).Faultless k.index
  /-- No file stands on the way to the database. -/
  clear : w.files.Clear (Path.ofText site.ratings.path).plain
  /-- Nor will a file of the index. -/
  apart : Apart w.files (Path.ofText site.index) IndexFiles.names
    (Path.ofText site.ratings.path).plain
  ratings : (w.database (site.place w)).Keeps site.ratings.space k.ratings

/-- The workspace at another time. -/
def setTime (w : Workspace) (now : String) : Workspace := { w with now }

/-- The time is only written into headers, so what a workspace holds does not depend on it. -/
lemma Holds.setTime (h : Holds site w k) (now : String) : Holds site (w.setTime now) k where
  index := ⟨h.index.load, h.index.savable⟩
  clear := h.clear
  apart := h.apart
  ratings := h.ratings

/-- Another index is put in place in a tree where paths lead as before. -/
lemma Holds.withFiles (h : Holds site w k) {files : FileTree} {old : Option Snapshot}
    (hindex : IndexFiles.Faultless ⟨files, Path.ofText site.index, w.now⟩ old)
    (hclear : files.Clear (Path.ofText site.ratings.path).plain)
    (hdirectory : files.workingDirectory = w.files.workingDirectory) :
    Holds site { w with files } { k with index := old } where
  index := hindex
  clear := hclear
  apart := by
    intro name hname
    rw [goal, way, start, start, hdirectory]
    exact h.apart name hname
  ratings := by
    rw [Site.place, goal, start, hdirectory]
    exact h.ratings

/-- The index of a corpus can be saved, and nothing else is lost. -/
lemma Holds.exists_save (h : Holds site w k) (hc : Layout.Storable c.snapshot) :
    ∃ after, (w.indexFiles site.index).save c.snapshot = (.ok (), after) ∧
      Holds site { w with files := after.tree } (k.withCorpus c) := by
  obtain ⟨after, hafter, hfaultless⟩ := Corpus.dependable_files.save h.index hc
  obtain ⟨heq, hclear, hdirectory⟩ := IndexFiles.clear_of_save hafter h.apart h.clear
  rw [heq] at hfaultless
  exact ⟨after, hafter, h.withFiles hfaultless hclear hdirectory⟩

/-- Building an index puts it in place, or fails and changes nothing. -/
lemma Holds.buildIndex (h : Holds site w k) (hpath : index.path = site.index) {input : String}
    (hc : (w.documents index.analyzer (some input)).bind Corpus.build = .ok c)
    (hfits : Layout.Storable c.snapshot) :
    ∃ w', w.buildIndex index input = (.ok c, w') ∧ Holds site w' (k.withCorpus c) := by
  obtain ⟨after, hafter, hholds⟩ := h.exists_save hfits
  refine ⟨_, ?_, hholds⟩
  simp only [Workspace.buildIndex, hc, hpath, Corpus.saveTo, IndexStore.save, hafter, Except.map]

/-- Opening an index gives the corpus to work on and puts its index in place. -/
lemma Holds.openIndex (h : Holds site w k) (hpath : index.path = site.index)
    (hc : k.corpus (w.documents index.analyzer input) = .ok c)
    (hfits : k.index = none → Layout.Storable c.snapshot) :
    ∃ w', w.openIndex index input = (.ok c, w') ∧ Holds site w' (k.withCorpus c) := by
  cases hindex : k.index with
  | some s =>
    -- The corpus is restored, and its snapshot is the one that is there.
    have hload : IndexStore.load (w.indexFiles index.path) = .ok (some s) := by
      rw [hpath, ← hindex]
      exact h.index.load
    have hsame : k.withCorpus c = k := by
      rw [Kept.withCorpus, Kept.snapshot_of_corpus hindex hc, ← hindex]
    rw [Kept.corpus_of_some hindex] at hc
    refine ⟨w, ?_, hsame ▸ h⟩
    rw [Workspace.openIndex, Corpus.obtain_of_load hload, hc]
    rfl
  | none =>
    have hload : IndexStore.load (w.indexFiles index.path) = .ok none := by
      rw [hpath, ← hindex]
      exact h.index.load
    rw [Kept.corpus_of_none hindex] at hc
    obtain ⟨after, hafter, hholds⟩ := h.exists_save (hfits hindex)
    rw [← hpath] at hafter
    refine ⟨_, ?_, hholds⟩
    rw [Workspace.openIndex, Corpus.obtain_of_save hload hc hafter]

/-- An index that cannot be opened changes nothing. -/
lemma Holds.openIndex_eq_error (h : Holds site w k) (hpath : index.path = site.index) {e : Error}
    (he : k.corpus (w.documents index.analyzer input) = .error e) :
    w.openIndex index input = (.error e, w) := by
  have hload : IndexStore.load (w.indexFiles index.path) = .ok k.index := by
    rw [hpath]
    exact h.index.load
  cases hindex : k.index with
  | some s =>
    rw [hindex] at hload
    rw [Kept.corpus_of_some hindex] at he
    rw [Workspace.openIndex, Corpus.obtain_of_load hload, he]
    rfl
  | none =>
    rw [hindex] at hload
    rw [Kept.corpus_of_none hindex] at he
    rw [Workspace.openIndex, Corpus.obtain_of_bind_error hload he]
    rfl

/-- The ratings are found at their place once an index is there. -/
lemma Holds.openRecommender (h : Holds site w k) (hindex : k.index ≠ none) (c : Corpus Binary64) :
    ∃ w', w.openRecommender site.ratings c =
        (.ok (site.place w', { corpus := c, space := site.ratings.space, ratings := k.ratings }),
          w') ∧ Holds site w' k := by
  obtain ⟨s, hs⟩ := Option.ne_none_iff_exists'.1 hindex
  obtain ⟨u, hu, hgrown, hleads⟩ := h.clear.exists_createDirectories_plain
  -- Making the directory of the database leaves a saved index alone; where there is none, it could
  -- make one in place of its header.
  have hfaultless := h.index
  rw [hs] at hfaultless
  have hholds : Holds site { w with files := u } k := by
    have hkept : Holds site { w with files := u } { k with index := some s } :=
      h.withFiles (hfaultless.grown hgrown) (h.clear.grown hgrown) hgrown.workingDirectory
    rwa [← hs] at hkept
  refine ⟨_, ?_, hholds⟩
  have hplace :
      site.place { w with files := u } = w.files.goal (Path.ofText site.ratings.path) := by
    rw [Site.place, goal, hgrown.start_eq]
    rfl
  have hload := hholds.ratings.load
  rw [hplace] at hload
  simp only [Workspace.openRecommender, openDatabase, hu, hleads.locate, hplace, Except.bind,
    Recommender.load, RatingStore.load, hload, Except.map]

/-- Other ratings are put in place. -/
lemma Holds.setDatabase (h : Holds site w k) {d : RatingDatabase} {ratings : Ratings Binary64}
    (hd : d.Keeps site.ratings.space ratings) :
    Holds site (w.setDatabase (site.place w) d) { k with ratings } where
  index := h.index
  clear := h.clear
  apart := h.apart
  ratings := by
    have hplace : site.place (w.setDatabase (site.place w) d) = site.place w := rfl
    rw [hplace, database, Workspace.setDatabase, Std.ExtTreeMap.getD_insert_self]
    exact hd

end Workspace

end DocSearch
