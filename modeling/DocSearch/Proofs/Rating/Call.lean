import DocSearch.Proofs.Basic
import DocSearch.Rating.Recommender

/-!
# Calls that rate documents

Every way to rate documents comes down to a list of ratings (`Recommender.Call.pairs`). With a store
that saves all or nothing, a call either has exactly these ratings added, in memory as well as in
the store, or it fails and changes neither (`Recommender.Call.of_perform`).
-/

namespace DocSearch

namespace Ratings

variable {α : Type} {id : DocId}

/-- Of several ratings for a document the last one counts. -/
lemma getElem?_addAll (r : Ratings α) (pairs : List (DocId × α)) :
    (r.addAll pairs)[id]? = (pairs.reverse.lookup id).or r[id]? :=
  getElem?_foldl_insert pairs r

/-- Documents without a new rating keep what they have. -/
lemma getElem?_addAll_of_notMem {r : Ratings α} {pairs : List (DocId × α)}
    (h : ∀ p ∈ pairs, p.1 ≠ id) : (r.addAll pairs)[id]? = r[id]? := by
  have hnone : pairs.reverse.lookup id = none := by
    refine List.lookup_eq_none_iff.2 fun p hp => ?_
    exact bne_iff_ne.2 (Ne.symm (h p (List.mem_reverse.1 hp)))
  rw [getElem?_addAll, hnone, Option.none_or]

lemma addAll_ne_empty {r : Ratings α} (hr : r ≠ ∅) (pairs : List (DocId × α)) :
    r.addAll pairs ≠ ∅ := by
  induction pairs generalizing r with
  | nil => exact hr
  | cons p pairs ih => exact ih Std.ExtTreeMap.insert_ne_empty

lemma addAll_append (r : Ratings α) (ps qs : List (DocId × α)) :
    r.addAll (ps ++ qs) = (r.addAll ps).addAll qs :=
  List.foldl_append

/-! ### Marked documents -/

variable [Scalar α]

/-- The ratings after documents were marked as relevant, which is to rate them with one. -/
def markAll (r : Ratings α) (ids : List DocId) : Ratings α :=
  r.addAll (ids.map fun id => (id, Scalar.one))

lemma markAll_cons (r : Ratings α) (first : DocId) (ids : List DocId) :
    r.markAll (first :: ids) = markAll (r.insert first Scalar.one) ids := rfl

lemma markAll_append (r : Ratings α) (ids more : List DocId) :
    r.markAll (ids ++ more) = (r.markAll ids).markAll more := by
  rw [markAll, List.map_append, addAll_append]
  rfl

/-- Marked documents are rated with one, and the others as before. -/
lemma getElem?_markAll (r : Ratings α) (ids : List DocId) :
    (r.markAll ids)[id]? = if id ∈ ids then some Scalar.one else r[id]? := by
  induction ids generalizing r with
  | nil => rfl
  | cons first ids ih =>
    rw [markAll_cons, ih, Std.ExtTreeMap.getElem?_insert]
    by_cases hmem : id ∈ ids
    · simp [hmem]
    · by_cases heq : id = first
      · simp [heq]
      · simp [hmem, heq, Ne.symm heq]

/-- Neither the order of the marks nor their repetition makes a difference. -/
lemma markAll_congr (r : Ratings α) {ids ids' : List DocId} (h : ∀ id, id ∈ ids ↔ id ∈ ids') :
    r.markAll ids = r.markAll ids' := by
  refine Std.ExtTreeMap.ext_getElem? fun id => ?_
  simp only [getElem?_markAll, h id]

end Ratings

namespace RatingStore

/-- Saving replaces the ratings of one name and no others, or fails and replaces none. -/
structure AllOrNothing (σ : Type) {α : Type} [RatingStore σ α] : Prop where
  load_saved : ∀ {s t : σ} {space : String} {r : Ratings α},
    save s space r = (.ok (), t) → load t space = .ok r
  load_other : ∀ {s t : σ} {space : String} {r : Ratings α},
    save s space r = (.ok (), t) → ∀ other, other ≠ space → load t other = load s other
  load_unsaved : ∀ {s t : σ} {space : String} {r : Ratings α} {e : Error},
    save s space r = (.error e, t) → ∀ other, load t other = load s other

/-- Ratings in memory are saved as a whole or not at all. -/
theorem allOrNothing_memory {α : Type} : AllOrNothing (MemoryRatings α) where
  load_saved := by
    rintro ⟨spaces, _ | e⟩ t space r h
    · obtain ⟨-, rfl⟩ := Prod.mk.inj h
      exact congrArg Except.ok (by simp)
    · exact absurd (congrArg Prod.fst h) (by simp [save])
  load_other := by
    rintro ⟨spaces, _ | e⟩ t space r h other hne
    · obtain ⟨-, rfl⟩ := Prod.mk.inj h
      exact congrArg Except.ok (by simp [Std.ExtTreeMap.getD_insert, Ne.symm hne])
    · exact absurd (congrArg Prod.fst h) (by simp [save])
  load_unsaved := by
    rintro ⟨spaces, _ | e⟩ t space r cause h other
    · exact absurd (congrArg Prod.fst h) (by simp [save])
    · obtain ⟨-, rfl⟩ := Prod.mk.inj h
      rfl

end RatingStore

namespace Recommender

variable {σ α : Type} [Scalar α] [RatingStore σ α] {s t : σ} {r u : Recommender α}
  {outcome : Except Error Unit}

/-- The ways to rate documents. -/
inductive Call (α : Type) where
  /-- One rating. -/
  | rate (id : DocId) (rating : α)
  /-- Several ratings at a time. -/
  | rateAll (pairs : List (DocId × α))
  /-- The best document of a ranking is relevant. -/
  | feedback (ranking : Ranking α)
  /-- The first documents of a ranking are relevant. -/
  | pseudoFeedback (ranking : Ranking α) (n : Nat)

namespace Call

/-- The outcome of a call with the recommender and the store after it. -/
def perform (r : Recommender α) (s : σ) : Call α → Except Error Unit × Recommender α × σ
  | .rate id rating => r.addRating s id rating
  | .rateAll pairs => r.addRatings s pairs
  | .feedback ranking => r.recordFeedback s ranking
  | .pseudoFeedback ranking n => r.pseudoFeedback s ranking n

/-- The ratings that a call is to add, in order. -/
def pairs : Call α → List (DocId × α)
  | .rate id rating => [(id, rating)]
  | .rateAll pairs => pairs
  | .feedback ranking => (ranking.take 1).map fun (id, _) => (id, Scalar.one)
  | .pseudoFeedback ranking n => (ranking.take n).map fun (id, _) => (id, Scalar.one)

end Call

/-- The ratings are in effect and in the store, where nothing else has changed. -/
structure Added (pairs : List (DocId × α)) (r : Recommender α) (s : σ) (u : Recommender α) (t : σ) :
    Prop where
  recommender : u = { r with ratings := r.ratings.addAll pairs }
  load_space : RatingStore.load t r.space = .ok u.ratings
  load_other : ∀ other, other ≠ r.space → RatingStore.load t other = RatingStore.load s other

/-- Neither the recommender nor the ratings in the store have changed. -/
structure Untouched (r : Recommender α) (s : σ) (u : Recommender α) (t : σ) : Prop where
  recommender : u = r
  load : ∀ other, RatingStore.load t other = RatingStore.load s other

omit [Scalar α] in
/-- All that adding ratings does: they are in effect if the save succeeds, else nothing is. -/
lemma addRatings_cases {pairs : List (DocId × α)} (h : r.addRatings s pairs = (outcome, u, t)) :
    (RatingStore.save s r.space (r.ratings.addAll pairs) = (.ok (), t) ∧ outcome = .ok () ∧
      u = { r with ratings := r.ratings.addAll pairs }) ∨
    ∃ e, RatingStore.save s r.space (r.ratings.addAll pairs) = (.error e, t) ∧
      outcome = .error e ∧ u = r := by
  rw [addRatings] at h
  split at h
  · next store hsave =>
    obtain ⟨rfl, hut⟩ := Prod.mk.inj h
    obtain ⟨rfl, rfl⟩ := Prod.mk.inj hut
    exact Or.inl ⟨hsave, rfl, rfl⟩
  · next e store hsave =>
    obtain ⟨rfl, hut⟩ := Prod.mk.inj h
    obtain ⟨rfl, rfl⟩ := Prod.mk.inj hut
    exact Or.inr ⟨e, hsave, rfl, rfl⟩

omit [Scalar α] in
lemma of_addRatings (hσ : RatingStore.AllOrNothing σ) {pairs : List (DocId × α)}
    (h : r.addRatings s pairs = (outcome, u, t)) :
    (outcome = .ok () ∧ Added pairs r s u t) ∨ ∃ e, outcome = .error e ∧ Untouched r s u t := by
  rcases addRatings_cases h with ⟨hsave, rfl, rfl⟩ | ⟨e, hsave, rfl, rfl⟩
  · exact Or.inl ⟨rfl, rfl, hσ.load_saved hsave, hσ.load_other hsave⟩
  · exact Or.inr ⟨e, rfl, rfl, hσ.load_unsaved hsave⟩

/-- A call adds its ratings, or there are none and nothing is done. -/
lemma Call.perform_cases (call : Call α) (r : Recommender α) (s : σ) :
    call.perform r s = r.addRatings s call.pairs ∨
      call.pairs = [] ∧ call.perform r s = (.ok (), r, s) := by
  cases call with
  | rate id rating => exact Or.inl rfl
  | rateAll pairs => exact Or.inl rfl
  | pseudoFeedback ranking n => exact Or.inl rfl
  | feedback ranking =>
    cases ranking with
    | nil => exact Or.inr ⟨rfl, rfl⟩
    | cons best ranking => exact Or.inl rfl

/-- A call has its ratings in effect or the recommender stays as it was, whatever the store does. -/
lemma Call.recommender_of_perform {call : Call α} (h : call.perform r s = (outcome, u, t)) :
    (outcome = .ok () ∧ u = { r with ratings := r.ratings.addAll call.pairs }) ∨
      ∃ e, outcome = .error e ∧ u = r := by
  rcases call.perform_cases r s with hadd | ⟨hpairs, hnone⟩
  · exact (addRatings_cases (hadd.symm.trans h)).imp And.right fun ⟨e, hfailed⟩ => ⟨e, hfailed.2⟩
  · obtain ⟨rfl, hut⟩ := Prod.mk.inj (hnone.symm.trans h)
    rw [hpairs]
    exact Or.inl ⟨rfl, (Prod.mk.inj hut).1.symm⟩

/-- A call has its ratings added or changes nothing. -/
theorem Call.of_perform (hσ : RatingStore.AllOrNothing σ)
    (hr : RatingStore.load s r.space = .ok r.ratings) {call : Call α}
    (h : call.perform r s = (outcome, u, t)) :
    (outcome = .ok () ∧ Added call.pairs r s u t) ∨
      ∃ e, outcome = .error e ∧ Untouched r s u t := by
  rcases call.perform_cases r s with hadd | ⟨hpairs, hnone⟩
  · exact of_addRatings hσ (hadd.symm.trans h)
  · -- Nothing is saved, so that the store agrees is all that there is to go by.
    obtain ⟨rfl, hut⟩ := Prod.mk.inj (hnone.symm.trans h)
    obtain ⟨rfl, rfl⟩ := Prod.mk.inj hut
    rw [hpairs]
    exact Or.inl ⟨rfl, rfl, hr, fun _ _ => rfl⟩

/-- Calls succeed with a store that saves whatever it is given. -/
lemma Call.exists_perform
    (hs : ∀ space ratings, ∃ t, RatingStore.save s space ratings = (.ok (), t)) (call : Call α)
    (r : Recommender α) : ∃ u t, call.perform r s = (.ok (), u, t) := by
  rcases call.perform_cases r s with hadd | ⟨-, hnone⟩
  · obtain ⟨t, ht⟩ := hs r.space (r.ratings.addAll call.pairs)
    refine ⟨{ r with ratings := r.ratings.addAll call.pairs }, t, ?_⟩
    simp only [hadd, addRatings, ht]
  · exact ⟨r, s, hnone⟩

end Recommender

end DocSearch
