import DocSearch.Proofs.Index.Positions
import DocSearch.Proofs.Ranking.Basic
import DocSearch.Proofs.Ranking.ExtendedBoolean
import DocSearch.Proofs.Rating.Call

/-!
# Feedback from queries

A recommender that is attached to an extended boolean model learns from its use: the best document
of a query is marked as relevant (`Feedback.Answered`), and so are the first documents of a ranking
that is put forward (`Feedback.Marked`). A save that fails changes nothing.

Which documents a use marks (`Feedback.Use.marks`) depends on the corpus only and not on what has
been rated. So while all saves succeed, uses one after another mark the documents that each of them
marks (`Feedback.Run.eq_withMarks`), in whatever order and however often they come.
-/

namespace DocSearch

variable {σ α : Type} [Scalar α] [RatingStore σ α]

namespace Recommender

/-- The recommender after documents were marked as relevant. -/
def withMarks (r : Recommender α) (ids : List DocId) : Recommender α :=
  { r with ratings := r.ratings.markAll ids }

@[simp] lemma withMarks_ratings (r : Recommender α) (ids : List DocId) :
    (r.withMarks ids).ratings = r.ratings.markAll ids := rfl

@[simp] lemma withMarks_nil (r : Recommender α) : r.withMarks [] = r := rfl

lemma withMarks_append (r : Recommender α) (ids more : List DocId) :
    r.withMarks (ids ++ more) = (r.withMarks ids).withMarks more := by
  rw [withMarks, Ratings.markAll_append]
  rfl

/-- Marks documents, each with a save of its own, up to the first that fails. -/
def rateEach (r : Recommender α) (s : σ) : List DocId → Except Error Unit × Recommender α × σ
  | [] => (.ok (), r, s)
  | id :: ids =>
    match r.addRating s id Scalar.one with
    | (.ok (), r, s) => rateEach r s ids
    | (.error e, r, s) => (.error e, r, s)

/-- Documents that are marked one by one are marked. -/
lemma eq_withMarks_of_rateEach {ids : List DocId} :
    ∀ {r u : Recommender α} {s t : σ}, r.rateEach s ids = (.ok (), u, t) → u = r.withMarks ids := by
  induction ids with
  | nil =>
    intro r u s t h
    exact (Prod.mk.inj (Prod.mk.inj h).2).1.symm
  | cons id ids ih =>
    intro r u s t h
    obtain ⟨⟨outcome, v, s'⟩, hstep⟩ : ∃ step, r.addRating s id Scalar.one = step := ⟨_, rfl⟩
    rw [rateEach, hstep] at h
    rcases addRatings_cases hstep with ⟨-, rfl, rfl⟩ | ⟨e, -, rfl, rfl⟩
    · exact ih h
    · exact absurd (congrArg Prod.fst h) (by simp)

end Recommender

namespace Feedback

/-! ## One use -/

/-- Documents are marked all together if the save succeeds, else none of them is and the call fails
as the save does. -/
inductive Marked (r : Recommender α) (s : σ) (ids : List DocId) :
    Except Error Unit × Recommender α × σ → Prop
  /-- The ratings with the marks are saved and in effect. -/
  | all {t : σ} (hsave : RatingStore.save s r.space (r.ratings.markAll ids) = (.ok (), t)) :
      Marked r s ids (.ok (), r.withMarks ids, t)
  /-- The save fails. -/
  | none {e : Error} {t : σ}
      (hsave : RatingStore.save s r.space (r.ratings.markAll ids) = (.error e, t)) :
      Marked r s ids (.error e, r, t)

/-- What becomes of a query to an extended boolean model with a recommender, by the ranking of the
query. -/
inductive Answered (ds : List Document) (r : Recommender α) (s : σ) :
    Except Error (Ranking α) → Except Error (List Document) × Recommender α × σ → Prop
  /-- The query is rejected. -/
  | rejected (e : Error) : Answered ds r s (.error e) (.error e, r, s)
  /-- There is nothing to be found, nor to be marked. -/
  | nothing : Answered ds r s (.ok []) (.ok [], r, s)
  /-- The documents of the ranking are the answer if the best one can be marked. -/
  | found {best : DocId × α} {ranking : Ranking α} {docs : List Document}
      {outcome : Except Error Unit} {u : Recommender α} {t : σ} (hdocs : ∀ d ∈ docs, d ∈ ds)
      (hids : docs.map Document.id = (best :: ranking).map Prod.fst)
      (hmarked : Marked r s [best.1] (outcome, u, t)) :
      Answered ds r s (.ok (best :: ranking)) (outcome.map fun _ => docs, u, t)

section One

variable {c : Corpus α} {ds : List Document} {vs : List TermVector}

lemma marked_addRatings (r : Recommender α) (s : σ) (ids : List DocId) :
    Marked r s ids (r.addRatings s (ids.map fun id => (id, Scalar.one))) := by
  obtain ⟨⟨outcome, u, t⟩, hadd⟩ :
      ∃ after, r.addRatings s (ids.map fun id => (id, Scalar.one)) = after := ⟨_, rfl⟩
  rw [hadd]
  rcases Recommender.addRatings_cases hadd with ⟨hsave, rfl, rfl⟩ | ⟨e, hsave, rfl, rfl⟩
  · exact .all hsave
  · exact .none hsave

/-- The first documents of a ranking are marked together. -/
theorem marked_pseudoFeedback (r : Recommender α) (s : σ) (ranking : Ranking α) (n : Nat) :
    Marked r s ((ranking.take n).map Prod.fst) (r.pseudoFeedback s ranking n) := by
  have hmarked := marked_addRatings r s ((ranking.take n).map Prod.fst)
  rw [List.map_map] at hmarked
  exact hmarked

/-- A query to an extended boolean model is answered from its ranking. -/
theorem answered_queryAttached (hc : DocumentStore.ofLists ds vs = .ok c.documents)
    (compiler : Query.Compiler) (r : Recommender α) (s : σ) (text : String) :
    Answered ds r s ((Model.extendedBoolean compiler).rank c text)
      ((Model.extendedBoolean compiler).queryAttached c r s text) := by
  cases hcompile : compiler.compile text with
  | error e =>
    rw [Model.queryAttached, Model.rank_extendedBoolean_of_error hcompile]
    exact .rejected _
  | ok q =>
    have hrank : (Model.extendedBoolean compiler).rank c text = .ok (ExtendedBoolean.rank c q) :=
      Model.rank_extendedBoolean hcompile
    cases hranking : ExtendedBoolean.rank c q with
    | nil =>
      rw [Model.queryAttached, hrank, hranking]
      exact .nothing
    | cons best ranking =>
      have hids : ∀ id ∈ (best :: ranking).map Prod.fst, id ∈ c.documents.ids := by
        intro id hid
        obtain ⟨p, hp, rfl⟩ := List.mem_map.1 hid
        exact ExtendedBoolean.mem_ids_of_mem_rank (hranking ▸ hp)
      have hdocuments : Ranking.documents (best :: ranking) c =
          ((best :: ranking).map Prod.fst).filterMap c.documents.get? := List.filterMap_map.symm
      rw [Model.queryAttached, hrank, hranking]
      refine .found (fun d hd => ?_) ?_ (marked_addRatings r s [best.1])
      · obtain ⟨p, -, hp⟩ := List.mem_filterMap.1 hd
        exact DocumentStore.mem_of_get? hc hp
      · rw [hdocuments]
        exact DocumentStore.map_id_filterMap_get? hc hids

end One

/-! ## Uses one after another -/

/-- The uses of a model that an attached recommender learns from. -/
inductive Use (α : Type) where
  /-- A query is put to the model. -/
  | query (text : String)
  /-- The first documents of a ranking are put forward as relevant. -/
  | pseudoFeedback (ranking : Ranking α) (n : Nat)

namespace Use

variable (compiler : Query.Compiler) (c : Corpus α)

/-- The outcome of a use with the recommender and the store after it. -/
def perform (r : Recommender α) (s : σ) : Use α → Except Error Unit × Recommender α × σ
  | .query text =>
    let (answer, r, s) := (Model.extendedBoolean compiler).queryAttached c r s text
    (answer.map fun _ => (), r, s)
  | .pseudoFeedback ranking n => r.pseudoFeedback s ranking n

/-- The documents that a use is to mark. -/
def marks : Use α → List DocId
  | .query text =>
    ((((Model.extendedBoolean compiler).rank c text).toOption.getD []).take 1).map Prod.fst
  | .pseudoFeedback ranking n => (ranking.take n).map Prod.fst

/-- The use is a query that cannot be compiled. -/
def Rejected : Use α → Prop
  | .query text => ∃ e, compiler.compile text = .error e
  | .pseudoFeedback _ _ => False

variable {compiler c} in
/-- A query that is ranked has its best document to mark. -/
lemma marks_query {text : String} {ranking : Ranking α}
    (h : (Model.extendedBoolean compiler).rank c text = .ok ranking) :
    (Use.query text).marks compiler c = (ranking.take 1).map Prod.fst := by
  rw [marks, h]
  rfl

variable {compiler c} in
/-- A rejected query has nothing to mark. -/
lemma marks_of_rejected {use : Use α} (h : use.Rejected compiler) : use.marks compiler c = [] := by
  cases use with
  | query text =>
    obtain ⟨e, he⟩ := h
    rw [marks, Model.rank_extendedBoolean_of_error he]
    rfl
  | pseudoFeedback ranking n => exact h.elim

/-- All that a use comes to: a query that is rejected, or a call that rates its marks with one. -/
lemma perform_cases (use : Use α) (r : Recommender α) (s : σ) :
    (use.Rejected compiler ∧ ∃ e, use.perform compiler c r s = (.error e, r, s)) ∨
    ∃ call : Recommender.Call α, use.perform compiler c r s = call.perform r s ∧
      call.pairs = (use.marks compiler c).map fun id => (id, Scalar.one) := by
  cases use with
  | query text =>
    cases hcompile : compiler.compile text with
    | error e =>
      have hrank : (Model.extendedBoolean compiler).rank c text = .error (.invalidQuery e) :=
        Model.rank_extendedBoolean_of_error hcompile
      exact Or.inl ⟨⟨e, hcompile⟩, .invalidQuery e, by
        simp only [perform, Model.queryAttached, hrank, Except.map]⟩
    | ok q =>
      have hrank : (Model.extendedBoolean compiler).rank c text =
          .ok (ExtendedBoolean.rank c q) := Model.rank_extendedBoolean hcompile
      refine Or.inr ⟨.feedback (ExtendedBoolean.rank c q), ?_, ?_⟩
      · obtain ⟨⟨outcome, v, t⟩, hafter⟩ :
            ∃ after, r.recordFeedback s (ExtendedBoolean.rank c q) = after := ⟨_, rfl⟩
        simp only [perform, Model.queryAttached, hrank, Model.kind, Recommender.Call.perform,
          hafter]
        cases outcome with
        | error e => rfl
        | ok => rfl
      · rw [marks_query hrank, List.map_map]
        rfl
  | pseudoFeedback ranking n =>
    refine Or.inr ⟨.pseudoFeedback ranking n, rfl, ?_⟩
    rw [marks, List.map_map]
    rfl

variable {compiler c} {r v : Recommender α} {s t : σ} {outcome : Except Error Unit} {use : Use α}

/-- A use marks its documents or fails, and then changes nothing. -/
lemma of_perform (h : use.perform compiler c r s = (outcome, v, t)) :
    (outcome = .ok () ∧ v = r.withMarks (use.marks compiler c)) ∨
    ∃ e, outcome = .error e ∧ v = r := by
  rcases perform_cases compiler c use r s with ⟨-, e, he⟩ | ⟨call, hcall, hpairs⟩
  · obtain ⟨rfl, hvt⟩ := Prod.mk.inj (h.symm.trans he)
    exact Or.inr ⟨e, rfl, (Prod.mk.inj hvt).1⟩
  · rw [Recommender.withMarks, Ratings.markAll, ← hpairs]
    exact Recommender.Call.recommender_of_perform (hcall.symm.trans h)

/-- The store keeps having the ratings in effect, and all others that it has had. -/
theorem load_of_perform (hσ : RatingStore.AllOrNothing σ)
    (hr : RatingStore.load s r.space = .ok r.ratings)
    (h : use.perform compiler c r s = (outcome, v, t)) :
    RatingStore.load t r.space = .ok v.ratings ∧
      ∀ other, other ≠ r.space → RatingStore.load t other = RatingStore.load s other := by
  rcases perform_cases compiler c use r s with ⟨-, e, he⟩ | ⟨call, hcall, -⟩
  · obtain ⟨-, hvt⟩ := Prod.mk.inj (h.symm.trans he)
    obtain ⟨rfl, rfl⟩ := Prod.mk.inj hvt
    exact ⟨hr, fun _ _ => rfl⟩
  · rcases Recommender.Call.of_perform hσ hr (hcall.symm.trans h) with
      ⟨-, hadded⟩ | ⟨e, -, huntouched⟩
    · exact ⟨hadded.load_space, hadded.load_other⟩
    · obtain rfl := huntouched.recommender
      exact ⟨(huntouched.load v.space).trans hr, fun other _ => huntouched.load other⟩

end Use

/-- Uses one after another while all saves succeed: each of them succeeds, or it is a rejected
query. The store may be in any state before each of them. -/
inductive Run (σ : Type) {α : Type} [Scalar α] [RatingStore σ α] (compiler : Query.Compiler)
    (c : Corpus α) : Recommender α → List (Use α) → Recommender α → Prop
  /-- Nothing is used. -/
  | nil (r : Recommender α) : Run σ compiler c r [] r
  /-- One use comes before the others. -/
  | cons {r v u : Recommender α} {s t : σ} {use : Use α} {uses : List (Use α)}
      {outcome : Except Error Unit} (hstep : use.perform compiler c r s = (outcome, v, t))
      (hsaved : outcome = .ok () ∨ use.Rejected compiler) (hrest : Run σ compiler c v uses u) :
      Run σ compiler c r (use :: uses) u

namespace Run

variable {compiler : Query.Compiler} {c : Corpus α} {r u : Recommender α} {uses : List (Use α)}

/-- Uses one after another mark the documents that each of them marks. -/
theorem eq_withMarks (h : Run σ compiler c r uses u) :
    u = r.withMarks (uses.flatMap (Use.marks compiler c)) := by
  induction h with
  | nil r => rfl
  | @cons r v u s t use uses outcome hstep hsaved hrest ih =>
    have hv : v = r.withMarks (use.marks compiler c) := by
      rcases Use.of_perform hstep with ⟨-, hv⟩ | ⟨e, rfl, rfl⟩
      · exact hv
      · -- it has failed for being rejected
        rw [Use.marks_of_rejected (hsaved.resolve_left (by simp)), Recommender.withMarks_nil]
    rw [ih, hv, List.flatMap_cons, Recommender.withMarks_append]

/-- With a store that saves whatever it is given, any uses can be made. -/
lemma exists_run {s : σ}
    (hs : ∀ space ratings, ∃ t, RatingStore.save s space ratings = (.ok (), t))
    (uses : List (Use α)) : ∀ r : Recommender α, ∃ u, Run σ compiler c r uses u := by
  induction uses with
  | nil => exact fun r => ⟨r, .nil r⟩
  | cons use uses ih =>
    intro r
    rcases Use.perform_cases compiler c use r s with
      ⟨hrejected, e, he⟩ | ⟨call, hcall, -⟩
    · obtain ⟨u, hu⟩ := ih r
      exact ⟨u, .cons he (Or.inr hrejected) hu⟩
    · obtain ⟨v, t, hv⟩ := call.exists_perform hs r
      obtain ⟨u, hu⟩ := ih v
      exact ⟨u, .cons (hcall.trans hv) (Or.inl rfl) hu⟩

end Run

/-- **What is learnt from queries.** Over a corpus of documents with distinct ids, a query to an
extended boolean model is answered with the documents of its ranking in order, and changes the
ratings of the attached recommender by rating the best of them with one and in no other way; if the
query is rejected, finds nothing or cannot be recorded, nothing changes. Pseudo feedback marks its
documents all together or not at all, and with the same result as one by one. A store that saves all
or nothing keeps having the ratings in effect. While all saves succeed, uses of the model mark what
each of them marks, so that runs of the same uses end with the same ratings, in whatever order they
are made and however often each of them is repeated. -/
theorem marks_exact {ds : List Document} {vs : List TermVector} {c : Corpus α}
    (hc : DocumentStore.ofLists ds vs = .ok c.documents) (compiler : Query.Compiler)
    (r : Recommender α) :
    (∀ (s : σ) (text : String), Answered ds r s ((Model.extendedBoolean compiler).rank c text)
      ((Model.extendedBoolean compiler).queryAttached c r s text)) ∧
    (∀ (s : σ) (ranking : Ranking α) (n : ℕ),
      Marked r s ((ranking.take n).map Prod.fst) (r.pseudoFeedback s ranking n)) ∧
    (∀ (s t : σ) (ids : List DocId) (u : Recommender α),
      r.rateEach s ids = (.ok (), u, t) → u = r.withMarks ids) ∧
    (RatingStore.AllOrNothing σ → ∀ (s t : σ) (use : Use α) (outcome : Except Error Unit)
      (u : Recommender α), RatingStore.load s r.space = .ok r.ratings →
      use.perform compiler c r s = (outcome, u, t) →
      RatingStore.load t r.space = .ok u.ratings ∧
        ∀ other, other ≠ r.space → RatingStore.load t other = RatingStore.load s other) ∧
    (∀ (uses : List (Use α)) (u : Recommender α), Run σ compiler c r uses u →
      u = r.withMarks (uses.flatMap (Use.marks compiler c))) ∧
    ∀ (uses uses' : List (Use α)) (u u' : Recommender α), Run σ compiler c r uses u →
      Run σ compiler c r uses' u' → (∀ use, use ∈ uses ↔ use ∈ uses') → u.ratings = u'.ratings := by
  refine ⟨answered_queryAttached hc compiler r, marked_pseudoFeedback r,
    fun s t ids u => Recommender.eq_withMarks_of_rateEach,
    fun hσ s t use outcome u hr h => Use.load_of_perform hσ hr h,
    fun uses u => Run.eq_withMarks, ?_⟩
  intro uses uses' u u' hu hu' hsame
  rw [hu.eq_withMarks, hu'.eq_withMarks, Recommender.withMarks_ratings,
    Recommender.withMarks_ratings]
  refine Ratings.markAll_congr _ fun id => ?_
  simp only [List.mem_flatMap, hsame]

theorem digits_marked_once :
    ∃ (ds : List Document) (vs : List TermVector) (c : Corpus ℝ) (r u u' : Recommender ℝ) (w : ℝ),
      ds = [⟨7, "", ["1", "2"]⟩, ⟨3, "", ["4"]⟩] ∧
      DocumentStore.ofLists ds vs = .ok c.documents ∧ r.ratings = ∅ ∧
      (Model.extendedBoolean {}).rank c "1 2" = .ok [(7, w)] ∧
      Answered ds r ({} : MemoryRatings ℝ) (.ok [(7, w)])
        ((Model.extendedBoolean {}).queryAttached c r ({} : MemoryRatings ℝ) "1 2") ∧
      Run (MemoryRatings ℝ) {} c r [.query "1 2", .pseudoFeedback [(3, 1), (7, 0)] 1] u ∧
      Run (MemoryRatings ℝ) {} c r
        [.pseudoFeedback [(3, 1), (7, 0)] 1, .query "1 2", .query "1 2"] u' ∧
      u.ratings = u'.ratings ∧
      ∀ id : DocId, u.ratings[id]? = if id = 7 ∨ id = 3 then some 1 else none := by
  obtain ⟨ds, hds⟩ : ∃ ds : List Document, ds = [⟨7, "", ["1", "2"]⟩, ⟨3, "", ["4"]⟩] := ⟨_, rfl⟩
  have hfew : (ds.flatMap Document.tokens).length < UInt32.size := by rw [hds]; decide
  obtain ⟨c, hc⟩ : ∃ c : Corpus ℝ, Corpus.build ds = .ok c :=
    Corpus.exists_build (by rw [hds]; decide)
  have hstore := Corpus.documents_of_build hc
  obtain ⟨q, hq, hcompile⟩ : ∃ q : Query.Dnf, q = .clauses [⟨[⟨"1", false⟩, ⟨"2", false⟩]⟩] ∧
      ({} : Query.Compiler).compile "1 2" = .ok q := ⟨_, rfl, Query.Compiler.compile_two_digits⟩
  -- only the first document has any of the two tokens
  have hspeaks : ∀ d ∈ ds, 0 < ExtendedBoolean.weight c d.id q ↔ d.id = 7 := by
    intro d hd
    rw [ExtendedBoolean.weight_pos_iff_speaks hc hfew hcompile hd, hq]
    rw [hds] at hd ⊢
    rcases List.mem_pair.1 hd with rfl | rfl
    · simp [Query.Dnf.conjunctions, ExtendedBoolean.Speaks]
    · simp [Query.Dnf.conjunctions, ExtendedBoolean.Speaks]
  have hseven : 0 < ExtendedBoolean.weight c 7 q :=
    (hspeaks ⟨7, "", ["1", "2"]⟩ (by simp [hds])).2 rfl
  have hthree : ¬ 0 < ExtendedBoolean.weight c 3 q := fun hpos =>
    absurd ((hspeaks ⟨3, "", ["4"]⟩ (by simp [hds])).1 hpos) (by decide)
  have hrank : (Model.extendedBoolean {}).rank c "1 2" =
      .ok [(7, ExtendedBoolean.weight c 7 q)] := by
    rw [Model.rank_extendedBoolean hcompile]
    simp [ExtendedBoolean.rank, Corpus.ids_of_build hc, hds, hseven, hthree, Ranking.ofList]
  obtain ⟨r, hr⟩ : ∃ r : Recommender ℝ, r.ratings = ∅ := ⟨⟨c, "", none, ∅⟩, rfl⟩
  have hsaves : ∀ space ratings, ∃ t, RatingStore.save ({} : MemoryRatings ℝ) space ratings =
      (.ok (), t) := fun _ _ => ⟨_, rfl⟩
  obtain ⟨u, hu⟩ : ∃ u, Run (MemoryRatings ℝ) {} c r
      [.query "1 2", .pseudoFeedback [(3, 1), (7, 0)] 1] u := Run.exists_run hsaves _ r
  obtain ⟨u', hu'⟩ : ∃ u', Run (MemoryRatings ℝ) {} c r
      [.pseudoFeedback [(3, 1), (7, 0)] 1, .query "1 2", .query "1 2"] u' :=
    Run.exists_run hsaves _ r
  obtain ⟨hanswered, -, -, -, hmarks, hsame⟩ :=
    @marks_exact (MemoryRatings ℝ) ℝ _ _ ds _ c hstore {} r
  have hanswer := hanswered {} "1 2"
  rw [hrank] at hanswer
  refine ⟨ds, _, c, r, u, u', _, hds, hstore, hr, hrank, hanswer, hu, hu',
    hsame _ _ _ _ hu hu' (by simp [or_comm]), fun id => ?_⟩
  have hids : [Use.query "1 2", .pseudoFeedback [(3, 1), (7, 0)] 1].flatMap (Use.marks {} c) =
      [7, 3] := by
    rw [List.flatMap_cons, Use.marks_query hrank]
    rfl
  rw [hmarks _ _ hu, hids, Recommender.withMarks_ratings, Ratings.getElem?_markAll, hr]
  simp

end Feedback

end DocSearch
