import Mathlib.Data.List.Induction
import DocSearch.Proofs.Rating.Call
import DocSearch.Proofs.Storage.RatingDatabase

/-!
# Saves of ratings that fail

A recommender takes ratings back when their save has failed. The database does not: what has taken
the place of an entry stays there, even if it could not be made durable. So after any attempts to
add ratings, each with a save that succeeds or fails at some step, the recommender has the ratings
of the attempts that succeeded, and the database has those as well, but beneath what the last
attempt that reached it has left over if it failed then (`RatingAttempt.follows_after`). A failed
save is unseen in the database unless it fails at its last step or comes after one that did
(`RatingAttempt.unseen_iff`).
-/

namespace DocSearch

/-- The error of a save that fails at a step. -/
def SaveFault.error : SaveFault → Error
  | .encoding => .encoding
  | .insertion => .storage
  | .durability => .storage

/-- The database as long as saving fails at a step, or at none. -/
def RatingDatabase.failingAt (d : RatingDatabase) (fault : Option SaveFault) : RatingDatabase :=
  { d with fault }

/-- An attempt to add ratings. -/
structure RatingAttempt where
  /-- The ratings, of which the last for a document counts. -/
  pairs : List (DocId × Binary64)
  /-- The step at which their save fails, if it does. -/
  fault : Option SaveFault := none

namespace RatingAttempt

/-! ## One attempt -/

/-- The outcome of an attempt, with the recommender and the database after it. -/
def perform (r : Recommender Binary64) (d : RatingDatabase) (a : RatingAttempt) :
    Except Error Unit × Recommender Binary64 × RatingDatabase :=
  r.addRatings (d.failingAt a.fault) a.pairs

/-- How an attempt ends. -/
def outcome (a : RatingAttempt) : Except Error Unit :=
  match a.fault with
  | none => .ok ()
  | some fault => .error fault.error

/-- The ratings that an attempt brings into effect. -/
def accepted (a : RatingAttempt) : List (DocId × Binary64) :=
  match a.fault with
  | none => a.pairs
  | some _ => []

/-- The ratings that the database has beyond those in effect, if `before` were such ones before the
attempt. A save that replaces the entry replaces them too. -/
def leftOver (before : List (DocId × Binary64)) (a : RatingAttempt) : List (DocId × Binary64) :=
  match a.fault with
  | none => []
  | some .encoding => before
  | some .insertion => before
  | some .durability => a.pairs

variable {r u v : Recommender Binary64} {d e f : RatingDatabase} {a : RatingAttempt}
  {attempts : List RatingAttempt} {space : String}

/-- What an attempt does to the recommender and to the database. -/
structure Performed (r : Recommender Binary64) (d : RatingDatabase) (a : RatingAttempt)
    (u : Recommender Binary64) (e : RatingDatabase) : Prop where
  perform : a.perform r d = (a.outcome, u, e)
  recommender : u = { r with ratings := r.ratings.addAll a.accepted }
  load_space : ∀ before, d.load r.space = .ok (r.ratings.addAll before) →
    e.load r.space = .ok (u.ratings.addAll (a.leftOver before))
  load_other : ∀ other, other ≠ r.space → e.load other = d.load other

/-- An attempt whose save replaces the entry is carried out as it is described. -/
lemma performed_of_put (hperform : a.perform r d = (a.outcome, u,
      (d.failingAt a.fault).put r.space (Layout.ratings (r.ratings.addAll a.pairs))))
    (hrecommender : u = { r with ratings := r.ratings.addAll a.accepted })
    (hsaved : ∀ before, u.ratings.addAll (a.leftOver before) = r.ratings.addAll a.pairs) :
    Performed r d a u
      ((d.failingAt a.fault).put r.space (Layout.ratings (r.ratings.addAll a.pairs))) where
  perform := hperform
  recommender := hrecommender
  load_space := by
    intro before _
    rw [RatingDatabase.load_put, hsaved before]
  load_other := fun other hne => RatingDatabase.load_put_of_ne _ _ hne

/-- Every attempt is carried out as it is described, at whichever step it fails. -/
lemma exists_performed (r : Recommender Binary64) (d : RatingDatabase) (a : RatingAttempt) :
    ∃ u e, Performed r d a u e := by
  obtain ⟨pairs, _ | _ | _ | _⟩ := a
  · exact ⟨_, _, performed_of_put rfl rfl fun _ => rfl⟩
  · exact ⟨r, _, rfl, rfl, fun _ h => h, fun _ _ => rfl⟩
  · exact ⟨r, _, rfl, rfl, fun _ h => h, fun _ _ => rfl⟩
  · exact ⟨_, _, performed_of_put rfl rfl fun _ => rfl⟩

lemma Performed.eq_of_fault (h : Performed r d a u e) (hfault : a.fault ≠ none) : u = r := by
  obtain ⟨pairs, _ | fault⟩ := a
  · exact absurd rfl hfault
  · exact h.recommender

/-! ## Several attempts -/

/-- The recommender and the database after several attempts. -/
def after (r : Recommender Binary64) (d : RatingDatabase) (attempts : List RatingAttempt) :
    Recommender Binary64 × RatingDatabase :=
  attempts.foldl (fun s a => (a.perform s.1 s.2).2) (r, d)

/-- The ratings that several attempts leave over in the database. -/
def allLeftOver (attempts : List RatingAttempt) : List (DocId × Binary64) :=
  attempts.foldl leftOver []

lemma allLeftOver_snoc (attempts : List RatingAttempt) (a : RatingAttempt) :
    allLeftOver (attempts ++ [a]) = a.leftOver (allLeftOver attempts) := by
  rw [allLeftOver, List.foldl_append]
  rfl

/-- The recommender has the ratings of the attempts that succeeded, and the database has what is
left over besides; other names have what they had. -/
structure Follows (r : Recommender Binary64) (d : RatingDatabase) (attempts : List RatingAttempt)
    (u : Recommender Binary64) (e : RatingDatabase) : Prop where
  recommender : u = { r with ratings := r.ratings.addAll (attempts.flatMap accepted) }
  load_space : e.load r.space = .ok (u.ratings.addAll (allLeftOver attempts))
  load_other : ∀ other, other ≠ r.space → e.load other = d.load other

lemma Follows.space_eq (h : Follows r d attempts u e) : u.space = r.space := by
  rw [h.recommender]

lemma Follows.snoc (h : Follows r d attempts u e) (hperformed : Performed u e a v f) :
    Follows r d (attempts ++ [a]) v f where
  recommender := by
    rw [hperformed.recommender, h.recommender, List.flatMap_append, Ratings.addAll_append,
      List.flatMap_singleton]
  load_space := by
    have hload := hperformed.load_space _ (h.space_eq ▸ h.load_space)
    rwa [h.space_eq, ← allLeftOver_snoc] at hload
  load_other := by
    intro other hne
    exact (hperformed.load_other other (h.space_eq ▸ hne)).trans (h.load_other other hne)

/-- Several attempts keep recommender and database together but for what is left over. -/
theorem follows_after (hload : d.load r.space = .ok r.ratings) (attempts : List RatingAttempt) :
    Follows r d attempts (after r d attempts).1 (after r d attempts).2 := by
  induction attempts using List.reverseRecOn with
  | nil => exact ⟨rfl, hload, fun _ _ => rfl⟩
  | append_singleton attempts a ih =>
    obtain ⟨v, f, hperformed⟩ :=
      exists_performed (after r d attempts).1 (after r d attempts).2 a
    have hafter : after r d (attempts ++ [a]) = (v, f) := by
      rw [after, List.foldl_append]
      exact congrArg Prod.snd hperformed.perform
    rw [hafter]
    exact ih.snoc hperformed

/-- What is left over is what was in effect exactly if it was so before and the attempt adds
nothing to the database that is not in effect. -/
lemma addAll_leftOver_iff (r : Ratings Binary64) (before : List (DocId × Binary64))
    (hfault : a.fault ≠ none) :
    (r.addAll (a.leftOver before) = r.addAll before ∧ r.addAll (a.leftOver before) = r) ↔
      r.addAll before = r ∧ (a.fault = some .durability → r.addAll a.pairs = r) := by
  obtain ⟨pairs, _ | _ | _ | _⟩ := a
  · exact absurd rfl hfault
  · simp [leftOver]
  · simp [leftOver]
  · simp only [leftOver, forall_const]
    exact ⟨fun h => ⟨h.1.symm.trans h.2, h.2⟩, fun h => ⟨h.2.trans h.1.symm, h.2⟩⟩

/-- **What a failed save leaves behind.** After any attempts to add ratings to what was loaded,
another attempt ends as its fault says, and the database has the ratings in effect together with
what is left over. If it fails, nothing is in effect that was not before. That it failed is then
unseen, in that the database has the same ratings as before and these are the ones in effect,
exactly if the attempts before it left nothing over and neither does this one: it did not fail at
its last step, or its ratings were in effect anyway. -/
theorem unseen_iff {c : Corpus Binary64} (hr : Recommender.load c d space = .ok r)
    (attempts : List RatingAttempt) (a : RatingAttempt) :
    ∃ u e v f, after r d attempts = (u, e) ∧ a.perform u e = (a.outcome, v, f) ∧
      Follows r d attempts u e ∧ Follows r d (attempts ++ [a]) v f ∧
      (a.fault ≠ none → v = u ∧
        ((f.load space = e.load space ∧ f.load space = .ok v.ratings) ↔
          u.ratings.addAll (allLeftOver attempts) = u.ratings ∧
            (a.fault = some .durability → u.ratings.addAll a.pairs = u.ratings))) := by
  obtain ⟨hspace, hload⟩ : r.space = space ∧ d.load space = .ok r.ratings := by
    obtain ⟨ratings, hload, rfl⟩ := map_eq_ok_iff.1 hr
    exact ⟨rfl, hload⟩
  subst hspace
  obtain ⟨⟨u, e⟩, hue⟩ : ∃ s, after r d attempts = s := ⟨_, rfl⟩
  have hbefore := follows_after hload attempts
  rw [hue] at hbefore
  obtain ⟨v, f, hperformed⟩ := exists_performed u e a
  have hafter := hbefore.snoc hperformed
  refine ⟨u, e, v, f, hue, hperformed.perform, hbefore, hafter, fun hfault => ?_⟩
  obtain rfl := hperformed.eq_of_fault hfault
  refine ⟨rfl, ?_⟩
  rw [hbefore.load_space, hafter.load_space, allLeftOver_snoc, Except.ok.injEq, Except.ok.injEq]
  exact addAll_leftOver_iff _ _ hfault

/-- The recommender of an empty corpus with the ratings of an empty database. -/
def blank : Recommender Binary64 :=
  { corpus := Corpus.assemble {} {}, space := "default", ratings := ∅ }

/-- A document is rated, and another rating for it fails when its entry is to be replaced. -/
def ratedOnce : List RatingAttempt :=
  [{ pairs := [(3, Scalar.one)] }, { pairs := [(3, Scalar.zero)], fault := some .insertion }]

theorem rating_left_over_after_ratedOnce :
    Recommender.load blank.corpus ({} : RatingDatabase) "default" = .ok blank ∧
      ∃ u e v f, after blank {} ratedOnce = (u, e) ∧
        perform u e { pairs := [(9, Scalar.one)], fault := some .durability } =
          (.error .storage, v, f) ∧
        e.load "default" = .ok (Ratings.addAll ∅ [(3, Scalar.one)]) ∧
        f.load "default" ≠ .ok v.ratings := by
  refine ⟨rfl, ?_⟩
  obtain ⟨u, e, v, f, hue, hperform, ⟨rfl, hload, -⟩, -, hfailed⟩ :=
    unseen_iff (d := {}) (r := blank) rfl ratedOnce
      { pairs := [(9, Scalar.one)], fault := some .durability }
  obtain ⟨rfl, hunseen⟩ := hfailed (by simp)
  refine ⟨_, e, _, f, hue, hperform, hload, fun heq => ?_⟩
  have hsame := (hunseen.1 ⟨heq.trans hload.symm, heq⟩).2 rfl
  exact absurd hsame (by decide +kernel)

/-- A batch whose save fails at its last step is in the database, and not in effect. -/
theorem unsaved_rating_loaded :
    ∃ e, blank.addRatings (RatingDatabase.failingAt {} (some .durability)) [(9, Scalar.one)] =
        (.error .storage, blank, e) ∧
      RatingDatabase.load {} "default" = .ok blank.ratings ∧
      e.load "default" = .ok (Ratings.addAll ∅ [(9, Scalar.one)]) ∧
      e.load "default" ≠ .ok blank.ratings := by
  have hload := RatingDatabase.load_put (RatingDatabase.failingAt {} (some .durability)) "default"
    (Ratings.addAll ∅ [(9, Scalar.one)])
  refine ⟨_, rfl, rfl, hload, fun heq => ?_⟩
  have hsame := Except.ok.inj (hload.symm.trans heq)
  exact absurd hsame (by decide +kernel)

end RatingAttempt

end DocSearch
