import Mathlib.Logic.Function.Basic
import DocSearch.Numeric.Binary64
import DocSearch.Proofs.Basic
import DocSearch.Proofs.Rating.Call

/-!
# Recommenders that share a store

Recommenders of different names may keep their ratings in one store. Calls on them come in any
order, and between two calls the store may begin or cease to refuse ratings. After every such run
each recommender has the ratings that the store has under its name; these are the ratings that it
began with and those of its own calls that succeeded, of which the last for a document counts
(`Session.Run.ratings_agree`).
-/

namespace DocSearch

open Recommender (Call)

/-- A store with the recommenders that use it, by the names of their ratings. -/
structure Session (σ α : Type) where
  /-- The store. -/
  store : σ
  /-- The recommender of each name, if there is one. -/
  members : String → Option (Recommender α)

namespace Session

/-- What happens in a session. -/
inductive Event (α : Type) where
  /-- A recommender joins with the ratings of a name. -/
  | joined (space : String) (ratings : Ratings α)
  /-- A call on a recommender has an outcome. -/
  | called (space : String) (call : Call α) (outcome : Except Error Unit)
  /-- The store changes otherwise than by a call, for example begins to refuse ratings. -/
  | turned

namespace Event

variable {α : Type}

/-- The ratings with which a recommender of the name joins. -/
def initial? (space : String) : Event α → Option (Ratings α)
  | .joined s ratings => if s = space then some ratings else none
  | _ => none

/-- The ratings that a successful call adds to those of the name. -/
def added [Scalar α] (space : String) : Event α → List (DocId × α)
  | .called s call (.ok ()) => if s = space then call.pairs else []
  | _ => []

end Event

variable {σ α : Type} [Scalar α] [RatingStore σ α] {s t u : Session σ α} {e : Event α}
  {log : List (Event α)} {space : String} {r : Recommender α}

/-- The session with a recommender under a name. -/
def enter (s : Session σ α) (space : String) (r : Recommender α) :
    String → Option (Recommender α) :=
  Function.update s.members space (some r)

/-- One step of a session. A name is taken by one recommender at most, calls are made on
recommenders that have joined, and what else befalls the store leaves the ratings in it as they are.
-/
inductive Step : Session σ α → Event α → Session σ α → Prop where
  | joined {s : Session σ α} {corpus : Corpus α} {space : String} {r : Recommender α}
      (neighbors : Option (DocId → List DocId)) (hnew : s.members space = none)
      (hload : Recommender.load corpus s.store space = .ok r) :
      Step s (.joined space r.ratings) ⟨s.store, s.enter space { r with neighbors }⟩
  | called {s : Session σ α} {space : String} {r r' : Recommender α} {call : Call α}
      {outcome : Except Error Unit} {store : σ} (hr : s.members space = some r)
      (hcall : call.perform r s.store = (outcome, r', store)) :
      Step s (.called space call outcome) ⟨store, s.enter space r'⟩
  | turned {s : Session σ α} {store : σ}
      (hload : ∀ space, RatingStore.load store space = RatingStore.load s.store space) :
      Step s .turned ⟨store, s.members⟩

/-- Any number of steps, with all that happens in them. -/
inductive Run : Session σ α → List (Event α) → Session σ α → Prop where
  | refl {s : Session σ α} : Run s [] s
  | snoc {s t u : Session σ α} {log : List (Event α)} {e : Event α} (run : Run s log t)
      (step : Step t e u) : Run s (log ++ [e]) u

/-! ## What a run preserves -/

/-- A recommender has the ratings in the store, and got them by what happened in its name. -/
structure MemberInSync (store : σ) (log : List (Event α)) (space : String) (r : Recommender α) :
    Prop where
  space_eq : r.space = space
  load : RatingStore.load store space = .ok r.ratings
  history : ∃ loaded : Ratings α, log.filterMap (Event.initial? space) = [loaded] ∧
    r.ratings = loaded.addAll (log.flatMap (Event.added space))

/-- All recommenders have the ratings in the store, and nothing has happened in other names. -/
structure InSync (s : Session σ α) (log : List (Event α)) : Prop where
  member : ∀ space r, s.members space = some r → MemberInSync s.store log space r
  absent : ∀ space, s.members space = none → log.filterMap (Event.initial? space) = [] ∧
    log.flatMap (Event.added space) = []

lemma inSync_start (store : σ) : InSync (⟨store, fun _ => none⟩ : Session σ α) [] :=
  ⟨fun _ _ h => absurd h (by simp), fun _ _ => ⟨rfl, rfl⟩⟩

/-- What happens in other names does not matter as long as the store keeps the ratings. -/
lemma MemberInSync.snoc {store store' : σ} (h : MemberInSync store log space r)
    (hload : RatingStore.load store' space = RatingStore.load store space)
    (hinitial : e.initial? space = none) (hadded : e.added space = []) :
    MemberInSync store' (log ++ [e]) space r := by
  refine ⟨h.space_eq, hload.trans h.load, ?_⟩
  simpa [List.filterMap_append, List.flatMap_append, hinitial, hadded] using h.history

/-- A step in one name leaves the others in agreement. -/
lemma InSync.snoc_enter {store : σ} (h : InSync s log)
    (hload : ∀ other, other ≠ space → RatingStore.load store other = RatingStore.load s.store other)
    (hinitial : ∀ other, other ≠ space → e.initial? other = none)
    (hadded : ∀ other, other ≠ space → e.added other = [])
    (hr : MemberInSync store (log ++ [e]) space r) :
    InSync ⟨store, s.enter space r⟩ (log ++ [e]) := by
  constructor
  · intro other u hu
    by_cases hne : other = space
    · subst hne
      obtain rfl : r = u := by simpa [enter] using hu
      exact hr
    · refine (h.member other u ?_).snoc (hload other hne) (hinitial other hne) (hadded other hne)
      simpa [enter, hne] using hu
  · intro other hother
    have hne : other ≠ space := by
      rintro rfl
      simp [enter] at hother
    have habsent := h.absent other (by simpa [enter, hne] using hother)
    simpa [List.filterMap_append, List.flatMap_append, hinitial other hne, hadded other hne]
      using habsent

/-- Joining is in agreement with the store that the ratings come from. -/
lemma InSync.joined {corpus : Corpus α} (neighbors : Option (DocId → List DocId)) (h : InSync s log)
    (hnew : s.members space = none) (hload : Recommender.load corpus s.store space = .ok r) :
    InSync ⟨s.store, s.enter space { r with neighbors }⟩ (log ++ [.joined space r.ratings]) := by
  obtain ⟨ratings, hratings, rfl⟩ := map_eq_ok_iff.1 hload
  obtain ⟨hinitial, hadded⟩ := h.absent space hnew
  refine h.snoc_enter (fun _ _ => rfl) (fun other hne => ?_) (fun _ _ => rfl)
    ⟨rfl, hratings, ratings, ?_, ?_⟩
  · exact if_neg (Ne.symm hne)
  · simp [List.filterMap_append, hinitial, Event.initial?]
  · simp [List.flatMap_append, hadded, Event.added, Ratings.addAll]

/-- A call that succeeds adds its ratings to those of its name, in memory and in the store. -/
lemma InSync.added {r' : Recommender α} {call : Call α} {store : σ} (h : InSync s log)
    (hr : s.members space = some r) (hcall : Recommender.Added call.pairs r s.store r' store) :
    InSync ⟨store, s.enter space r'⟩ (log ++ [.called space call (.ok ())]) := by
  obtain ⟨rfl, -, loaded, hinitial, hratings⟩ := h.member space r hr
  refine h.snoc_enter hcall.load_other (fun _ _ => rfl) (fun other hne => ?_)
    ⟨?_, hcall.load_space, loaded, ?_, ?_⟩
  · exact if_neg (Ne.symm hne)
  · rw [hcall.recommender]
  · simp [List.filterMap_append, hinitial, Event.initial?]
  · rw [hcall.recommender, List.flatMap_append, Ratings.addAll_append, ← hratings]
    simp [Event.added]

/-- A store that has the same ratings is in agreement with the same recommenders. -/
lemma InSync.snoc_of_load {store : σ} (h : InSync s log)
    (hload : ∀ space, RatingStore.load store space = RatingStore.load s.store space)
    (hinitial : ∀ space, e.initial? space = none) (hadded : ∀ space, e.added space = []) :
    InSync ⟨store, s.members⟩ (log ++ [e]) := by
  constructor
  · intro space r hr
    exact (h.member space r hr).snoc (hload space) (hinitial space) (hadded space)
  · intro space hspace
    simpa [List.filterMap_append, List.flatMap_append, hinitial, hadded] using h.absent space hspace

/-- A call that fails leaves the recommenders and the ratings in the store as they are. -/
theorem Step.of_called_error (hσ : RatingStore.AllOrNothing σ) (hs : InSync s log) {call : Call α}
    {cause : Error} (h : Step s (.called space call (.error cause)) t) :
    t.members = s.members ∧
      ∀ other, RatingStore.load t.store other = RatingStore.load s.store other := by
  cases h with
  | @called _ r r' _ _ store hr hcall =>
    have hmember := hs.member space r hr
    rcases Call.of_perform hσ (hmember.space_eq ▸ hmember.load) hcall with ⟨hok, -⟩ | ⟨e, -, hu⟩
    · exact absurd hok (by simp)
    · obtain ⟨rfl, hload⟩ := hu
      exact ⟨Function.update_eq_self_iff.2 hr.symm, hload⟩

/-- One step keeps recommenders and store in agreement. -/
theorem Step.inSync (hσ : RatingStore.AllOrNothing σ) (h : Step s e t) (hs : InSync s log) :
    InSync t (log ++ [e]) := by
  cases h with
  | joined neighbors hnew hload => exact hs.joined neighbors hnew hload
  | turned hload => exact hs.snoc_of_load hload (fun _ => rfl) fun _ => rfl
  | @called space r r' call outcome store hr hcall =>
    have hmember := hs.member space r hr
    rcases Call.of_perform hσ (hmember.space_eq ▸ hmember.load) hcall with
      ⟨rfl, hadded⟩ | ⟨cause, rfl, -⟩
    · exact hs.added hr hadded
    · obtain ⟨hmembers, hload⟩ := (Step.called hr hcall).of_called_error hσ hs
      have hsame : s.enter space r' = s.members := hmembers
      rw [hsame]
      exact hs.snoc_of_load hload (fun _ => rfl) fun _ => rfl

/-- A run keeps recommenders and store in agreement. -/
theorem Run.inSync (hσ : RatingStore.AllOrNothing σ) (h : Run s log t) (hs : InSync s []) :
    InSync t log := by
  induction h with
  | refl => exact hs
  | snoc _ step ih => exact step.inSync hσ ih

/-- **Recommenders and their store never diverge.** After every run each recommender has the ratings
that the store has under its name. They are those that it joined with, updated in order by its calls
that succeeded, so that the last rating for a document counts. A call that fails changes no ratings
of any name, neither in memory nor in the store. -/
theorem Run.ratings_agree (hσ : RatingStore.AllOrNothing σ) {store : σ}
    (h : Run (⟨store, fun _ => none⟩ : Session σ α) log t) :
    (∀ space r, t.members space = some r →
      RatingStore.load t.store space = .ok r.ratings ∧
        ∃ loaded : Ratings α, log.filterMap (Event.initial? space) = [loaded] ∧
          r.ratings = loaded.addAll (log.flatMap (Event.added space)) ∧
          ∀ id, r.ratings[id]? =
            ((log.flatMap (Event.added space)).reverse.lookup id).or loaded[id]?) ∧
      ∀ space (call : Call α) cause u, Step t (.called space call (.error cause)) u →
        u.members = t.members ∧
          ∀ other, RatingStore.load u.store other = RatingStore.load t.store other := by
  have hsync := h.inSync hσ (inSync_start store)
  refine ⟨fun space r hr => ?_, fun space call cause u hu => hu.of_called_error hσ hsync⟩
  obtain ⟨-, hload, loaded, hinitial, hratings⟩ := hsync.member space r hr
  refine ⟨hload, loaded, hinitial, hratings, fun id => ?_⟩
  rw [hratings, Ratings.getElem?_addAll]

theorem two_recommenders_agree :
    RatingStore.AllOrNothing (MemoryRatings Binary64) ∧
      ∃ (t : Session (MemoryRatings Binary64) Binary64) (a b : Recommender Binary64),
        Run ⟨{}, fun _ => none⟩
          [.joined "a" ∅, .joined "b" ∅,
            .called "a" (.rateAll [(1, ⟨0⟩), (2, ⟨0⟩), (1, ⟨1⟩)]) (.ok ()), .turned,
            .called "b" (.rate 1 ⟨0⟩) (.error .storage)] t ∧
          t.members "a" = some a ∧ t.members "b" = some b ∧
          RatingStore.load t.store "a" = .ok a.ratings ∧ a.ratings[(1 : DocId)]? = some ⟨1⟩ ∧
          RatingStore.load t.store "b" = .ok b.ratings ∧ b.ratings[(1 : DocId)]? = none := by
  have hrun := (((((@Run.refl (MemoryRatings Binary64) _ _ _ ⟨{}, fun _ => none⟩).snoc
    (@Step.joined _ _ _ _ _ (Corpus.assemble {} {}) "a" _ none rfl rfl)).snoc
    (@Step.joined _ _ _ _ _ (Corpus.assemble {} {}) "b" _ none rfl rfl)).snoc
    (@Step.called _ _ _ _ _ "a" _ _ (.rateAll [(1, ⟨0⟩), (2, ⟨0⟩), (1, ⟨1⟩)]) _ _ rfl rfl)).snoc
    (@Step.turned _ _ _ _ _
      { spaces := Std.ExtTreeMap.insert ∅ "a" (Ratings.addAll ∅ [(1, ⟨0⟩), (2, ⟨0⟩), (1, ⟨1⟩)]),
        refusal := some .storage } fun _ => rfl)).snoc
    (@Step.called _ _ _ _ _ "b" _ _ (.rate 1 ⟨0⟩) _ _ rfl rfl)
  have hsync := (hrun.ratings_agree RatingStore.allOrNothing_memory).1
  obtain ⟨haload, _, -, -, harating⟩ := hsync "a" _ rfl
  obtain ⟨hbload, _, hbinitial, -, hbrating⟩ := hsync "b" _ rfl
  obtain ⟨rfl, -⟩ := List.cons.inj hbinitial
  exact ⟨RatingStore.allOrNothing_memory, _, _, _, hrun, rfl, rfl, haload, harating 1, hbload,
    hbrating 1⟩

end Session

end DocSearch
