import DocSearch.Proofs.Command.Workspace

/-!
# Commands as transitions

A command is a transition of what is kept, the index and the ratings (`Command.Transition`): where a
workspace without faults holds what is kept, running a command leaves one that holds what the
transition makes of it (`Command.exists_transition`). What commands may do to the index and to the
ratings is read off the transitions (`Command.Lawful`) and holds along every course of commands
(`Command.lawful_course`).
-/

namespace DocSearch

namespace Command

open Workspace

variable {site : Site} {w : Workspace} {k k' : Kept} {c : Command}
  {source : Except Error (List Document)} {ok : Bool}

/-! ## Commands at a site -/

/-- The command works on the index and the ratings of the site. -/
def IsAt (site : Site) : Command → Prop
  | build _ index => index.path = site.index
  | query _ _ _ _ index _ ratings => index.path = site.index ∧ ratings = site.ratings
  | rate _ _ index _ ratings => index.path = site.index ∧ ratings = site.ratings
  | recommend _ index _ ratings => index.path = site.index ∧ ratings = site.ratings

/-- The command builds an index whether there is one or not. -/
def IsBuild : Command → Prop
  | build _ _ => True
  | _ => False

/-- The documents that a workspace has for the input of the command. -/
def documents (w : Workspace) : Command → Except Error (List Document)
  | build input index => w.documents index.analyzer (some input)
  | query _ _ _ _ index input _ => w.documents index.analyzer input
  | rate _ _ index input _ => w.documents index.analyzer input
  | recommend _ index input _ => w.documents index.analyzer input

/-- The lengths in the index that may be built can be written. -/
def Fits (w : Workspace) (c : Command) : Prop :=
  ∀ corpus : Corpus Binary64, (c.documents w).bind Corpus.build = .ok corpus →
    Layout.Storable corpus.snapshot

/-! ## Transitions -/

/-- What a command makes of what is kept, and whether it succeeds. -/
inductive Transition (source : Except Error (List Document)) (k : Kept) :
    Command → Bool → Kept → Prop
  /-- The index of the input is put in place. -/
  | built {input : String} {index : IndexChoice} {corpus : Corpus Binary64}
      (h : source.bind Corpus.build = .ok corpus) :
      Transition source k (build input index) true (k.withCorpus corpus)
  /-- The input has no index. -/
  | notBuilt {input : String} {index : IndexChoice} {e : Error}
      (h : source.bind (Corpus.build : _ → Except Error (Corpus Binary64)) = .error e) :
      Transition source k (build input index) false k
  /-- There is no corpus to work on. -/
  | notOpened {c : Command} {e : Error} (hc : ¬ c.IsBuild) (h : k.corpus source = .error e) :
      Transition source k c false k
  /-- The query is rejected. -/
  | rejected {text : String} {kind : ModelKind} {limit : Nat} {pseudoFeedback : Option Nat}
      {index : IndexChoice} {input : Option String} {ratings : RatingChoice}
      {corpus : Corpus Binary64} {e : Error} (h : k.corpus source = .ok corpus)
      (hrank : (Model.ofKind kind index.analyzer : Model Binary64).rank corpus text = .error e) :
      Transition source k (query text kind limit pseudoFeedback index input ratings) false
        (k.withCorpus corpus)
  /-- The documents of the query are shown. -/
  | ranked {text : String} {kind : ModelKind} {limit : Nat} {pseudoFeedback : Option Nat}
      {index : IndexChoice} {input : Option String} {ratings : RatingChoice}
      {corpus : Corpus Binary64} {ranking : Ranking Binary64} (h : k.corpus source = .ok corpus)
      (hkind : kind ≠ .extendedBoolean)
      (hrank : (Model.ofKind kind index.analyzer : Model Binary64).rank corpus text = .ok ranking) :
      Transition source k (query text kind limit pseudoFeedback index input ratings) true
        (k.withCorpus corpus)
  /-- The documents of the query are shown and the first ones marked. -/
  | marked {text : String} {limit : Nat} {pseudoFeedback : Option Nat} {index : IndexChoice}
      {input : Option String} {ratings : RatingChoice} {corpus : Corpus Binary64}
      {ranking : Ranking Binary64} (h : k.corpus source = .ok corpus)
      (hrank : (Model.ofKind .extendedBoolean index.analyzer : Model Binary64).rank corpus text =
        .ok ranking) :
      Transition source k
        (query text .extendedBoolean limit pseudoFeedback index input ratings) true
        { k.withCorpus corpus with ratings := mark k.ratings (marked ranking pseudoFeedback) }
  /-- A document of the corpus is rated. -/
  | rated {id : DocId} {rating : Binary64} {index : IndexChoice} {input : Option String}
      {ratings : RatingChoice} {corpus : Corpus Binary64} (h : k.corpus source = .ok corpus)
      (hid : (corpus.document? id).isSome) :
      Transition source k (rate id rating index input ratings) true
        { k.withCorpus corpus with ratings := k.ratings.insert id rating }
  /-- The corpus has no such document. -/
  | unknown {id : DocId} {rating : Binary64} {index : IndexChoice} {input : Option String}
      {ratings : RatingChoice} {corpus : Corpus Binary64} (h : k.corpus source = .ok corpus)
      (hid : (corpus.document? id).isNone) :
      Transition source k (rate id rating index input ratings) false (k.withCorpus corpus)
  /-- Recommendations are shown. -/
  | recommended {limit : Nat} {index : IndexChoice} {input : Option String} {ratings : RatingChoice}
      {corpus : Corpus Binary64} (h : k.corpus source = .ok corpus) :
      Transition source k (recommend limit index input ratings) true (k.withCorpus corpus)

/-- The outcome of a command on a workspace is that of a transition of what is kept. -/
def Performs (site : Site) (source : Except Error (List Document)) (k : Kept) (c : Command)
    (r : Report × Workspace) : Prop :=
  ∃ ok k', Transition source k c ok k' ∧ (r.1.code = 0 ↔ ok = true) ∧ Holds site r.2 k'

lemma performs_build (h : Holds site w k) {input : String} {index : IndexChoice}
    (hpath : index.path = site.index) (hfits : (build input index).Fits w) :
    Performs site ((build input index).documents w) k (build input index)
      (run w (build input index)) := by
  cases hbuild : (w.documents index.analyzer (some input)).bind
      (Corpus.build : _ → Except Error (Corpus Binary64)) with
  | error e =>
    refine ⟨false, k, .notBuilt hbuild, ?_, ?_⟩
    · simp [run, runBuild, buildIndex, hbuild, Report.failed]
    · simpa only [run, runBuild, buildIndex, hbuild] using h
  | ok corpus =>
    obtain ⟨w', hw', hholds⟩ := h.buildIndex hpath hbuild (hfits corpus hbuild)
    refine ⟨true, _, .built hbuild, ?_, ?_⟩
    · simp [run, runBuild, hw', Report.success]
    · simpa only [run, runBuild, hw'] using hholds

/-- A command that finds no corpus fails and changes nothing. -/
lemma performs_notOpened (h : Holds site w k) (hc : c.IsAt site) (hnot : ¬ c.IsBuild) {e : Error}
    (he : k.corpus (c.documents w) = .error e) :
    Performs site (c.documents w) k c (run w c) := by
  refine ⟨false, k, .notOpened hnot he, ?_⟩
  cases c with
  | build input index => exact absurd trivial hnot
  | query text kind limit pseudoFeedback index input ratings =>
    have hopen := h.openIndex_eq_error hc.1 he
    simpa [run, runQuery, hopen, Report.failed] using h
  | rate id rating index input ratings =>
    have hopen := h.openIndex_eq_error hc.1 he
    simpa [run, runRate, hopen, Report.failed] using h
  | recommend limit index input ratings =>
    have hopen := h.openIndex_eq_error hc.1 he
    simpa [run, runRecommend, hopen, Report.failed] using h

section Opened

/-! ## Commands on an open index -/

variable {index : IndexChoice} {input : Option String} {ratings : RatingChoice}
  {corpus : Corpus Binary64}

lemma performs_recommend (h : Holds site w k) {limit : Nat}
    (hc : (recommend limit index input ratings).IsAt site)
    (hcorpus : k.corpus (w.documents index.analyzer input) = .ok corpus)
    (hfits : k.index = none → Layout.Storable corpus.snapshot) :
    Performs site (w.documents index.analyzer input) k (recommend limit index input ratings)
      (run w (recommend limit index input ratings)) := by
  obtain ⟨hpath, rfl⟩ := hc
  obtain ⟨w', hw', hholds⟩ := h.openIndex hpath hcorpus hfits
  obtain ⟨w'', hw'', hholds⟩ := hholds.openRecommender (by simp) corpus
  refine ⟨true, _, .recommended hcorpus, ?_, ?_⟩
  · simp [run, runRecommend, hw', hw'', Report.success]
  · simpa only [run, runRecommend, hw', hw''] using hholds

lemma performs_rate (h : Holds site w k) {id : DocId} {rating : Binary64}
    (hc : (rate id rating index input ratings).IsAt site)
    (hcorpus : k.corpus (w.documents index.analyzer input) = .ok corpus)
    (hfits : k.index = none → Layout.Storable corpus.snapshot) :
    Performs site (w.documents index.analyzer input) k (rate id rating index input ratings)
      (run w (rate id rating index input ratings)) := by
  obtain ⟨hpath, rfl⟩ := hc
  obtain ⟨w', hw', hholds⟩ := h.openIndex hpath hcorpus hfits
  obtain ⟨w'', hw'', hholds⟩ := hholds.openRecommender (by simp) corpus
  cases hid : (corpus.document? id).isNone with
  | true =>
    refine ⟨false, _, .unknown hcorpus hid, ?_, ?_⟩
    · simp [run, runRate, hw', hw'', hid, Report.failed]
    · simpa [run, runRate, hw', hw'', hid] using hholds
  | false =>
    have hsome : (corpus.document? id).isSome := by
      simpa using hid
    obtain ⟨d, hd, hkeeps⟩ := RatingDatabase.exists_addRatings hholds.ratings.fault
      { corpus, space := site.ratings.space, ratings := k.ratings }
      [(id, rating)]
    refine ⟨true, _, .rated hcorpus hsome, ?_, ?_⟩
    · simp [run, runRate, hw', hw'', hid, Recommender.addRating, hd, Report.success]
    · simpa [run, runRate, hw', hw'', hid, Recommender.addRating, hd, Ratings.addAll] using
        hholds.setDatabase hkeeps

lemma performs_query (h : Holds site w k) {text : String} {kind : ModelKind} {limit : Nat}
    {pseudoFeedback : Option Nat}
    (hc : (query text kind limit pseudoFeedback index input ratings).IsAt site)
    (hcorpus : k.corpus (w.documents index.analyzer input) = .ok corpus)
    (hfits : k.index = none → Layout.Storable corpus.snapshot) :
    Performs site (w.documents index.analyzer input) k
      (query text kind limit pseudoFeedback index input ratings)
      (run w (query text kind limit pseudoFeedback index input ratings)) := by
  obtain ⟨hpath, rfl⟩ := hc
  obtain ⟨w', hw', hholds⟩ := h.openIndex hpath hcorpus hfits
  by_cases hkind : kind = .extendedBoolean
  · subst hkind
    obtain ⟨w'', hw'', hholds⟩ := hholds.openRecommender (by simp) corpus
    cases hrank :
        (Model.ofKind .extendedBoolean index.analyzer : Model Binary64).rank corpus text with
    | error e =>
      refine ⟨false, _, .rejected hcorpus hrank, ?_, ?_⟩
      · simp [run, runQuery, runExtended, hw', hw'', hrank, Report.failed]
      · simpa [run, runQuery, runExtended, hw', hw'', hrank] using hholds
    | ok ranking =>
      obtain ⟨d, hd, hkeeps⟩ := exists_feedback
        (r := { corpus, space := site.ratings.space, ratings := k.ratings })
        hholds.ratings ranking pseudoFeedback
      refine ⟨true, _, .marked hcorpus hrank, ?_, ?_⟩
      · simp [run, runQuery, runExtended, hw', hw'', hrank, hd, Report.success]
      · simpa [run, runQuery, runExtended, hw', hw'', hrank, hd] using hholds.setDatabase hkeeps
  · cases hrank : (Model.ofKind kind index.analyzer : Model Binary64).rank corpus text with
    | error e =>
      refine ⟨false, _, .rejected hcorpus hrank, ?_, ?_⟩
      · simp [run, runQuery, hw', hkind, hrank, Report.failed]
      · simpa [run, runQuery, hw', hkind, hrank] using hholds
    | ok ranking =>
      refine ⟨true, _, .ranked hcorpus hkind hrank, ?_, ?_⟩
      · simp [run, runQuery, hw', hkind, hrank, Report.success]
      · simpa [run, runQuery, hw', hkind, hrank] using hholds

end Opened

/-- **A command is a transition.** Where a workspace holds what is kept, running a command leaves
one that holds what a transition makes of it, and the command succeeds if the transition does. -/
theorem exists_transition (h : Holds site w k) (hc : c.IsAt site) (hfits : c.Fits w) :
    Performs site (c.documents w) k c (run w c) := by
  by_cases hbuild : c.IsBuild
  · cases c with
    | build input index => exact performs_build h hc hfits
    | _ => exact absurd hbuild id
  · cases hcorpus : k.corpus (c.documents w) with
    | error e => exact performs_notOpened h hc hbuild hcorpus
    | ok corpus =>
      have hstorable : k.index = none → Layout.Storable corpus.snapshot := by
        intro hnone
        rw [Kept.corpus_of_none hnone] at hcorpus
        exact hfits corpus hcorpus
      cases c with
      | build input index => exact absurd trivial hbuild
      | query text kind limit pseudoFeedback index input ratings =>
        exact performs_query h hc hcorpus hstorable
      | rate id rating index input ratings => exact performs_rate h hc hcorpus hstorable
      | recommend limit index input ratings => exact performs_recommend h hc hcorpus hstorable

/-! ## Laws -/

/-- What a command may make of what is kept. -/
structure Lawful (source : Except Error (List Document)) (k : Kept) (c : Command) (succeeds : Prop)
    (k' : Kept) : Prop where
  /-- A build that succeeds replaces the index by that of its input and leaves the ratings. -/
  built : c.IsBuild → succeeds → ∃ corpus : Corpus Binary64,
    source.bind Corpus.build = .ok corpus ∧ k'.index = some corpus.snapshot ∧
      k'.ratings = k.ratings
  /-- A build that fails has no index to put in place and leaves both. -/
  notBuilt : c.IsBuild → ¬ succeeds →
    (∃ e, source.bind (Corpus.build : _ → Except Error (Corpus Binary64)) = .error e) ∧ k' = k
  /-- Any other command leaves an index that is there, whatever its input. -/
  keeps : ¬ c.IsBuild → ∀ s, k.index = some s → k'.index = some s
  /-- If there is none, it first puts that of its input in place, or fails and changes nothing. -/
  first : ¬ c.IsBuild → k.index = none →
    (∃ corpus : Corpus Binary64, source.bind Corpus.build = .ok corpus ∧
      k'.index = some corpus.snapshot) ∨
    (¬ succeeds ∧ k' = k ∧
      ∃ e, source.bind (Corpus.build : _ → Except Error (Corpus Binary64)) = .error e)
  /-- An index that cannot be opened is a failure that changes nothing. -/
  notOpened : ¬ c.IsBuild → ∀ e, k.corpus source = .error e → ¬ succeeds ∧ k' = k
  /-- The ratings are changed only by rating a document of the corpus and by a query of the extended
  boolean model that finds something. -/
  changes : k'.ratings ≠ k.ratings → ∃ corpus, k.corpus source = .ok corpus ∧
    ((∃ id rating index input ratings, c = rate id rating index input ratings ∧
      id ∈ corpus.snapshot.documents.map Document.id) ∨
    ∃ text limit pseudoFeedback index input ratings ranking,
      c = query text .extendedBoolean limit pseudoFeedback index input ratings ∧
      (Model.ofKind .extendedBoolean index.analyzer : Model Binary64).rank corpus text =
        .ok ranking ∧ ranking ≠ [])
  /-- Rating a document of the corpus sets its entry, and rating another one fails. -/
  rated : ∀ id rating index input ratings corpus, c = rate id rating index input ratings →
    k.corpus source = .ok corpus →
      if id ∈ corpus.snapshot.documents.map Document.id then
        succeeds ∧ k'.ratings = k.ratings.insert id rating
      else ¬ succeeds ∧ k'.ratings = k.ratings
  /-- A rejected query fails; another one marks the first documents of its ranking if its model is
  the extended boolean one, whatever the number of results. -/
  queried : ∀ text kind limit pseudoFeedback index input ratings corpus,
    c = query text kind limit pseudoFeedback index input ratings → k.corpus source = .ok corpus →
      match (Model.ofKind kind index.analyzer : Model Binary64).rank corpus text with
      | .error _ => ¬ succeeds ∧ k'.ratings = k.ratings
      | .ok ranking => succeeds ∧ ∀ id, k'.ratings[id]? =
          if kind = .extendedBoolean ∧ id ∈ marked ranking pseudoFeedback then some Scalar.one
          else k.ratings[id]?

namespace Transition

lemma built_of_isBuild (h : Transition source k c ok k') (hc : c.IsBuild) :
    (ok = true ∧ ∃ corpus : Corpus Binary64, source.bind Corpus.build = .ok corpus ∧
      k' = k.withCorpus corpus) ∨
    (ok = false ∧ k' = k ∧
      ∃ e, source.bind (Corpus.build : _ → Except Error (Corpus Binary64)) = .error e) := by
  cases h with
  | built h => exact .inl ⟨rfl, _, h, rfl⟩
  | notBuilt h => exact .inr ⟨rfl, rfl, _, h⟩
  | notOpened hnot _ => exact absurd hc hnot
  | _ => exact absurd hc id

/-- A command that builds nothing anew works on the corpus that there is, or finds none. -/
lemma opened_of_not_isBuild (h : Transition source k c ok k') (hc : ¬ c.IsBuild) :
    (∃ corpus, k.corpus source = .ok corpus ∧ k'.index = some corpus.snapshot) ∨
      ((∃ e, k.corpus source = .error e) ∧ ok = false ∧ k' = k) := by
  cases h with
  | built => exact absurd trivial hc
  | notBuilt => exact absurd trivial hc
  | notOpened _ h => exact .inr ⟨⟨_, h⟩, rfl, rfl⟩
  | rejected h => exact .inl ⟨_, h, rfl⟩
  | ranked h => exact .inl ⟨_, h, rfl⟩
  | marked h => exact .inl ⟨_, h, rfl⟩
  | rated h => exact .inl ⟨_, h, rfl⟩
  | unknown h => exact .inl ⟨_, h, rfl⟩
  | recommended h => exact .inl ⟨_, h, rfl⟩

lemma keeps (h : Transition source k c ok k') (hc : ¬ c.IsBuild) {s : Snapshot}
    (hs : k.index = some s) : k'.index = some s := by
  rcases h.opened_of_not_isBuild hc with ⟨corpus, hcorpus, hindex⟩ | ⟨-, -, rfl⟩
  · rw [hindex, Kept.snapshot_of_corpus hs hcorpus]
  · exact hs

lemma mem_ids_iff {corpus : Corpus Binary64} (h : k.corpus source = .ok corpus) (id : DocId) :
    (corpus.document? id).isSome ↔ id ∈ corpus.snapshot.documents.map Document.id :=
  Corpus.isSome_document?_iff (Kept.ofSnapshot_of_corpus h)

lemma changes (h : Transition source k c ok k') (hne : k'.ratings ≠ k.ratings) :
    ∃ corpus, k.corpus source = .ok corpus ∧
      ((∃ id rating index input ratings, c = rate id rating index input ratings ∧
        id ∈ corpus.snapshot.documents.map Document.id) ∨
      ∃ text limit pseudoFeedback index input ratings ranking,
        c = query text .extendedBoolean limit pseudoFeedback index input ratings ∧
        (Model.ofKind .extendedBoolean index.analyzer : Model Binary64).rank corpus text =
          .ok ranking ∧ ranking ≠ []) := by
  cases h with
  | rated h hid => exact ⟨_, h, .inl ⟨_, _, _, _, _, rfl, (mem_ids_iff h _).1 hid⟩⟩
  | marked h hrank =>
    refine ⟨_, h, .inr ⟨_, _, _, _, _, _, _, rfl, hrank, ?_⟩⟩
    rintro rfl
    exact hne (by simp [Command.marked, mark, Ratings.addAll])
  | _ => exact absurd rfl hne

lemma rated_iff {id : DocId} {rating : Binary64} {index : IndexChoice} {input : Option String}
    {ratings : RatingChoice} {corpus : Corpus Binary64}
    (h : Transition source k (rate id rating index input ratings) ok k')
    (hcorpus : k.corpus source = .ok corpus) :
    if id ∈ corpus.snapshot.documents.map Document.id then
      ok = true ∧ k'.ratings = k.ratings.insert id rating
    else ¬ ok = true ∧ k'.ratings = k.ratings := by
  have hids := mem_ids_iff hcorpus id
  cases h with
  | notOpened _ h => exact absurd (h.symm.trans hcorpus) (by simp)
  | rated h hid =>
    obtain rfl := Except.ok.inj (hcorpus.symm.trans h)
    rw [if_pos (hids.1 hid)]
    exact ⟨rfl, rfl⟩
  | unknown h hid =>
    obtain rfl := Except.ok.inj (hcorpus.symm.trans h)
    have hnot : ¬ (corpus.document? id).isSome := by simpa using hid
    rw [if_neg fun hmem => hnot (hids.2 hmem)]
    exact ⟨by simp, rfl⟩

lemma of_query {text : String} {kind : ModelKind} {limit : Nat} {pseudoFeedback : Option Nat}
    {index : IndexChoice} {input : Option String} {ratings : RatingChoice}
    {corpus : Corpus Binary64}
    (h : Transition source k (query text kind limit pseudoFeedback index input ratings) ok k')
    (hcorpus : k.corpus source = .ok corpus) :
    match (Model.ofKind kind index.analyzer : Model Binary64).rank corpus text with
    | .error _ => ¬ ok = true ∧ k'.ratings = k.ratings
    | .ok ranking => ok = true ∧ ∀ id, k'.ratings[id]? =
        if kind = .extendedBoolean ∧ id ∈ Command.marked ranking pseudoFeedback then
          some Scalar.one
        else k.ratings[id]? := by
  cases h with
  | notOpened _ h => exact absurd (h.symm.trans hcorpus) (by simp)
  | rejected h hrank =>
    obtain rfl := Except.ok.inj (hcorpus.symm.trans h)
    rw [hrank]
    exact ⟨by simp, rfl⟩
  | ranked h hkind hrank =>
    obtain rfl := Except.ok.inj (hcorpus.symm.trans h)
    rw [hrank]
    exact ⟨rfl, fun id => (if_neg fun hand => hkind hand.1).symm⟩
  | marked h hrank =>
    obtain rfl := Except.ok.inj (hcorpus.symm.trans h)
    rw [hrank]
    refine ⟨rfl, fun id => ?_⟩
    rw [getElem?_mark]
    simp

/-- Every transition follows the laws. -/
theorem lawful (h : Transition source k c ok k') : Lawful source k c (ok = true) k' where
  built := by
    intro hc hok
    rcases h.built_of_isBuild hc with ⟨-, corpus, hcorpus, rfl⟩ | ⟨rfl, -⟩
    · exact ⟨corpus, hcorpus, rfl, rfl⟩
    · exact absurd hok (by simp)
  notBuilt := by
    intro hc hok
    rcases h.built_of_isBuild hc with ⟨rfl, -⟩ | ⟨-, hkept, he⟩
    · exact absurd rfl hok
    · exact ⟨he, hkept⟩
  keeps := fun hc _ hs => h.keeps hc hs
  first := by
    intro hc hnone
    rw [← Kept.corpus_of_none hnone]
    rcases h.opened_of_not_isBuild hc with hcorpus | ⟨he, rfl, hkept⟩
    · exact .inl hcorpus
    · exact .inr ⟨by simp, hkept, he⟩
  notOpened := by
    intro hc e he
    rcases h.opened_of_not_isBuild hc with ⟨corpus, hcorpus, -⟩ | ⟨-, rfl, hkept⟩
    · exact absurd (he.symm.trans hcorpus) (by simp)
    · exact ⟨by simp, hkept⟩
  changes := h.changes
  rated := by
    rintro id rating index input ratings corpus rfl hcorpus
    exact h.rated_iff hcorpus
  queried := by
    rintro text kind limit pseudoFeedback index input ratings corpus rfl hcorpus
    exact h.of_query hcorpus

end Transition

/-! ## Courses of commands -/

/-- A command and the time at which it is given. -/
structure TimedCommand where
  /-- The time. -/
  now : String
  /-- The command. -/
  command : Command

/-- Runs a command at its time. -/
def TimedCommand.run (w : Workspace) (t : TimedCommand) : Report × Workspace :=
  Command.run (w.setTime t.now) t.command

/-- The lengths in all that several commands may save one after the other can be written. -/
def AllFit : Workspace → List TimedCommand → Prop
  | _, [] => True
  | w, t :: course => t.command.Fits w ∧ AllFit (t.run w).2 course

/-- From `k` on, several commands one after the other follow the laws: each finds in the workspace
what was kept and leaves there what it may make of it. -/
inductive Course (site : Site) : Workspace → Kept → List TimedCommand → Prop
  | done {w : Workspace} {k : Kept} (h : Holds site w k) : Course site w k []
  | next {w : Workspace} {k k' : Kept} {t : TimedCommand} {course : List TimedCommand}
      (h : Holds site w k)
      (hlawful : Lawful (t.command.documents w) k t.command ((t.run w).1.code = 0) k')
      (hrest : Course site (t.run w).2 k' course) : Course site w k (t :: course)

/-- The time has no part in the documents of an input. -/
lemma documents_setTime (w : Workspace) (now : String) (c : Command) :
    c.documents (w.setTime now) = c.documents w := by
  cases c <;> rfl

/-- **Commands follow the laws.** So do all commands on the same index and the same ratings in a
workspace without faults, whatever their order, their number and the times at which they run. -/
theorem lawful_course {course : List TimedCommand} (h : Holds site w k)
    (hsite : ∀ t ∈ course, t.command.IsAt site) (hfits : AllFit w course) :
    Course site w k course := by
  induction course generalizing w k with
  | nil => exact .done h
  | cons t course ih =>
    obtain ⟨hc, hsite⟩ := List.forall_mem_cons.1 hsite
    obtain ⟨hfit, hfits⟩ := hfits
    have hfit' : t.command.Fits (w.setTime t.now) := by
      rwa [Fits, documents_setTime]
    obtain ⟨ok, k', htransition, hcode, hholds⟩ :=
      exists_transition (h.setTime t.now) hc hfit'
    have hlawful := htransition.lawful
    rw [documents_setTime, ← propext hcode] at hlawful
    exact .next h hlawful (ih hholds hsite hfits)

/-- A workspace with nothing but a file that describes a document. -/
def oneFile : Workspace where
  files :=
    { entries := (∅ : Std.ExtTreeMap (List String) Entry).insert ["d"]
        (.file (Bytes.ofText "\x7b\"id\":1,\"title\":\"\",\"body\":\"\"\x7d")) }

/-- The index and the ratings that are used if none are chosen. -/
def usualSite : Site := ⟨"./index", {}⟩

lemma documents_oneFile :
    oneFile.documents {} (some "d") = .ok IndexFiles.oneDocument.documents := by
  decide +kernel

lemma holds_oneFile : Holds usualSite oneFile {} where
  index := by
    refine ⟨by decide +kernel, oneFile.files.put ["index"] .directory, by decide +kernel,
      ["index"], ⟨by decide +kernel, by decide +kernel⟩, fun name hname => ?_⟩
    refine ⟨IndexFiles.isName_of_mem_names name hname, ?_⟩
    revert name
    decide +kernel
  clear := by
    have hway : ∀ place ∈ oneFile.files.way (Path.ofText "./ratings.db").plain,
        oneFile.files.entry? place = none ∨ oneFile.files.entry? place = some .directory := by
      decide +kernel
    refine ⟨rfl, fun place hplace content => ?_⟩
    rcases hway place hplace with h | h
    · simp [h]
    · simp [h]
  apart := by
    intro name hname
    revert name
    decide +kernel
  ratings := ⟨by decide +kernel, by decide +kernel⟩

/-- The first rating builds the index, which has no document for the second. -/
def twoRates : List TimedCommand :=
  [⟨"noon", rate 1 Scalar.one {} (some "d") {}⟩, ⟨"night", rate 2 Scalar.one {} none {}⟩]

lemma allFit_twoRates : AllFit oneFile twoRates := by
  refine ⟨?_, ?_, trivial⟩
  · intro corpus hcorpus
    have hsource : (rate 1 Scalar.one {} (some "d") {}).documents oneFile =
        .ok IndexFiles.oneDocument.documents := documents_oneFile
    rw [hsource] at hcorpus
    have hsnapshot : corpus.snapshot = IndexFiles.oneDocument :=
      Corpus.snapshot_of_ofSnapshot hcorpus
    rw [hsnapshot]
    exact IndexFiles.storable_oneDocument
  · -- Nothing is built from no input.
    intro corpus hcorpus
    exact absurd hcorpus (by simp [documents, Workspace.documents, Ingest.documents, Except.bind])

theorem two_rates_are_lawful :
    Holds usualSite oneFile {} ∧ (∀ t ∈ twoRates, t.command.IsAt usualSite) ∧
      AllFit oneFile twoRates ∧ Course usualSite oneFile {} twoRates ∧
      (TimedCommand.run oneFile ⟨"noon", rate 1 Scalar.one {} (some "d") {}⟩).1.code = 0 := by
  have hsite : ∀ t ∈ twoRates, t.command.IsAt usualSite := by
    simp [twoRates, IsAt, usualSite]
  have hcourse := lawful_course holds_oneFile hsite allFit_twoRates
  refine ⟨holds_oneFile, hsite, allFit_twoRates, hcourse, ?_⟩
  obtain ⟨corpus, hcorpus⟩ : ∃ c : Corpus Binary64, Corpus.build IndexFiles.oneDocument.documents =
    .ok c := Corpus.exists_build (by decide)
  have hopened : ({} : Kept).corpus (oneFile.documents {} (some "d")) = .ok corpus := by
    rw [documents_oneFile]
    exact hcorpus
  have hsnapshot : corpus.snapshot = IndexFiles.oneDocument := Corpus.snapshot_of_ofSnapshot hcorpus
  cases hcourse with
  | next _ hlawful _ =>
    have hrated := hlawful.rated 1 Scalar.one {} (some "d") {} corpus rfl hopened
    rw [if_pos (by rw [hsnapshot]; decide)] at hrated
    exact hrated.1

end Command

end DocSearch
