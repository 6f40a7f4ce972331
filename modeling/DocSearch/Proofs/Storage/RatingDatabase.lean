import Mathlib.Logic.Function.Basic
import DocSearch.Proofs.Rating.Call
import DocSearch.Proofs.Storage.Layout
import DocSearch.Storage.RatingDatabase

/-!
# Ratings that last

A database keeps the ratings of each name as they were last saved, to the last bit, whatever has
been saved under other names and however often the database has been reopened
(`RatingDatabase.keeps_last_saved`).

What makes a store keep ratings in this way is that saving succeeds and changes one name only, and
that reopening changes nothing (`RatingStore.Reliable`). This holds of a database and of a store in
memory, as long as the latter is not given up.

The names of a database are the keys of a tree that knows byte strings only (`ByteTree`). The tree
holds the same entries, since names with the same bytes are the same (`RatingDatabase.Mirrors`).
-/

namespace DocSearch

/-- Different texts have different bytes. -/
lemma Bytes.ofText_injective : Function.Injective Bytes.ofText := by
  intro s t h
  have htext := congrArg Bytes.text? h
  rwa [text?_ofText, text?_ofText, Option.some.injEq] at htext

/-! ## Uses of a store -/

/-- A use of a store of ratings. -/
inductive RatingCall (α : Type) where
  /-- Loads the ratings of a name. -/
  | load (space : String)
  /-- Replaces the ratings of a name. -/
  | save (space : String) (r : Ratings α)
  /-- Closes the store and opens it again. -/
  | reopen

/-- The answer to a use of a store of ratings. -/
inductive RatingAnswer (α : Type) where
  /-- What is loaded. -/
  | loaded (outcome : Except Error (Ratings α))
  /-- How saving ends. -/
  | saved (outcome : Except Error Unit)
  /-- The store is open again. -/
  | reopened

namespace RatingCall

variable {α : Type}

/-- The ratings that a call saves under a name. -/
def saved? (space : String) : RatingCall α → Option (Ratings α)
  | load _ => none
  | save name r => if name = space then some r else none
  | reopen => none

/-- The ratings that were last saved under a name, none if nothing was saved. -/
def lastRatings (calls : List (RatingCall α)) (space : String) : Ratings α :=
  (calls.filterMap (saved? space)).getLastD ∅

/-- The answer to a call after other ones. -/
def expected (calls : List (RatingCall α)) : RatingCall α → RatingAnswer α
  | load space => .loaded (.ok (lastRatings calls space))
  | save _ _ => .saved (.ok ())
  | reopen => .reopened

lemma lastRatings_snoc (calls : List (RatingCall α)) (call : RatingCall α) (space : String) :
    lastRatings (calls ++ [call]) space = (call.saved? space).getD (lastRatings calls space) := by
  rw [lastRatings, List.filterMap_append, List.getLastD_eq_getLast?, List.getLast?_append]
  cases h : call.saved? space with
  | none => simp [h, lastRatings, List.getLastD_eq_getLast?]
  | some r => simp [h]

end RatingCall

namespace RatingStore

open RatingCall (lastRatings)

variable {σ α : Type} [RatingStore σ α]

/-- The answer of a store, and the store afterwards. -/
def answer (reopen : σ → σ) (s : σ) : RatingCall α → RatingAnswer α × σ
  | .load space => (.loaded (load s space), s)
  | .save space r =>
    let (outcome, s) := save s space r
    (.saved outcome, s)
  | .reopen => (.reopened, reopen s)

/-- The store after several calls. -/
def after (reopen : σ → σ) (s : σ) (calls : List (RatingCall α)) : σ :=
  calls.foldl (fun s call => (answer reopen s call).2) s

/-- The answer of a store after several calls. -/
def answerAfter (reopen : σ → σ) (s : σ) (calls : List (RatingCall α)) (call : RatingCall α) :
    RatingAnswer α :=
  (answer reopen (after reopen s calls) call).1

/-- As long as a store is sound, it saves the ratings of one name at a time and reopens as it
was. -/
structure Reliable (reopen : σ → σ) (sound : σ → Prop) : Prop where
  save : ∀ {s : σ}, sound s → ∀ (space : String) (r : Ratings α), ∃ t,
    save s space r = (.ok (), t) ∧ sound t ∧ load t space = .ok r ∧
      ∀ other, other ≠ space → load t other = load s other
  reopened : ∀ {s : σ}, sound s → sound (reopen s) ∧ ∀ space, load (reopen s) space = load s space

/-- The store is sound and has what the calls have last saved. -/
structure UpToDate (sound : σ → Prop) (s : σ) (calls : List (RatingCall α)) : Prop where
  sound : sound s
  load : ∀ space, load s space = .ok (lastRatings calls space)

section Reliable

variable {reopen : σ → σ} {sound : σ → Prop} {s : σ} {calls : List (RatingCall α)}

/-- A call is answered as expected and leaves the store up to date. -/
lemma UpToDate.of_answer (hσ : Reliable reopen sound) (h : UpToDate sound s calls)
    (call : RatingCall α) :
    (answer reopen s call).1 = call.expected calls ∧
      UpToDate sound (answer reopen s call).2 (calls ++ [call]) := by
  cases call with
  | load space =>
    refine ⟨congrArg RatingAnswer.loaded (h.load space), h.sound, fun other => ?_⟩
    rw [RatingCall.lastRatings_snoc]
    exact h.load other
  | save space r =>
    obtain ⟨t, hsave, hsound, hspace, hother⟩ := hσ.save h.sound space r
    simp only [answer, hsave]
    refine ⟨rfl, hsound, fun other => ?_⟩
    rw [RatingCall.lastRatings_snoc, RatingCall.saved?]
    -- only the name that is saved has other ratings than before
    split
    · next heq =>
      rw [← heq]
      exact hspace
    · next hne => exact (hother other (Ne.symm hne)).trans (h.load other)
  | reopen =>
    obtain ⟨hsound, hload⟩ := hσ.reopened h.sound
    refine ⟨rfl, hsound, fun other => ?_⟩
    rw [RatingCall.lastRatings_snoc]
    exact (hload other).trans (h.load other)

lemma UpToDate.of_after (hσ : Reliable reopen sound) (more : List (RatingCall α))
    (h : UpToDate sound s calls) : UpToDate sound (after reopen s more) (calls ++ more) := by
  induction more generalizing s calls with
  | nil => rwa [List.append_nil]
  | cons call more ih =>
    have hrest := ih (h.of_answer hσ call).2
    rwa [List.append_assoc] at hrest

/-- A reliable store that is up to date answers as expected from then on. -/
theorem UpToDate.answerAfter_eq (hσ : Reliable reopen sound) (h : UpToDate sound s calls)
    (more : List (RatingCall α)) (call : RatingCall α) :
    answerAfter reopen s more call = call.expected (calls ++ more) :=
  ((h.of_after hσ more).of_answer hσ call).1

end Reliable

/-- Memory is reliable unless it refuses to save; it knows no reopening. -/
lemma reliable_memory :
    Reliable (id : MemoryRatings α → MemoryRatings α) fun m => m.refusal = none where
  save := by
    intro m hm space r
    have hsave : save m space r = (.ok (), { m with spaces := m.spaces.insert space r }) := by
      simp only [save, hm]
    exact ⟨_, hsave, hm, allOrNothing_memory.load_saved hsave,
      allOrNothing_memory.load_other hsave⟩
  reopened := fun hm => ⟨hm, fun _ => rfl⟩

end RatingStore

/-! ## Trees of bytes -/

/-- Trees that have a byte string at each of their keys and keep it when they are reopened. -/
structure ByteTree (τ : Type) where
  /-- The tree without keys. -/
  empty : τ
  /-- The byte string at a key. -/
  get? : τ → Bytes → Option Bytes
  /-- The tree with the byte string at a key replaced. -/
  insert : τ → Bytes → Bytes → τ
  /-- The tree as it is found when it is opened again. -/
  reopen : τ → τ
  get?_empty : ∀ key, get? empty key = none
  get?_insert_self : ∀ t key value, get? (insert t key value) key = some value
  get?_insert_of_ne : ∀ t {key other} value, other ≠ key →
    get? (insert t key value) other = get? t other
  get?_reopen : ∀ t key, get? (reopen t) key = get? t key

/-- A function that is changed at one key at a time is such a tree. -/
def ByteTree.functions : ByteTree (Bytes → Option Bytes) where
  empty := fun _ => none
  get? := id
  insert t key value := Function.update t key (some value)
  reopen := id
  get?_empty := fun _ => rfl
  get?_insert_self := fun _ key _ => Function.update_self key _ _
  get?_insert_of_ne := fun _ _ _ _ hne => Function.update_of_ne hne _ _
  get?_reopen := fun _ _ => rfl

/-- Ratings in a tree, at the bytes of their names. -/
structure TreeRatings {τ : Type} (T : ByteTree τ) where
  /-- The tree. -/
  tree : τ

namespace TreeRatings

variable {τ : Type} {T : ByteTree τ}

instance : RatingStore (TreeRatings T) Binary64 where
  load s space :=
    match T.get? s.tree (Bytes.ofText space) with
    | some value => Layout.decode Layout.readRatings value
    | none => .ok ∅
  save s space r := (.ok (), ⟨T.insert s.tree (Bytes.ofText space) (Layout.ratings r)⟩)

/-- The tree is opened again. -/
def reopen (s : TreeRatings T) : TreeRatings T := ⟨T.reopen s.tree⟩

end TreeRatings

/-! ## Databases -/

namespace RatingDatabase

open RatingStore (answer after answerAfter Reliable UpToDate)
open RatingCall (lastRatings)

variable {d : RatingDatabase} {space : String}

/-- The database is opened again: its entries are still there. -/
def reopen (d : RatingDatabase) : RatingDatabase := { entries := d.entries }

/-- Ratings that were saved are loaded again. -/
lemma load_put (d : RatingDatabase) (space : String) (r : Ratings Binary64) :
    (d.put space (Layout.ratings r)).load space = .ok r := by
  rw [load, put, Std.ExtTreeMap.getElem?_insert_self]
  exact (Layout.reads_ratings r).decode

lemma load_put_of_ne (d : RatingDatabase) {other : String} (value : Bytes) (h : other ≠ space) :
    (d.put space value).load other = d.load other := by
  rw [load, put, Std.ExtTreeMap.getElem?_insert, if_neg (by simpa using Ne.symm h), load]

lemma save_eq_put (h : d.fault = none) (space : String) (r : Ratings Binary64) :
    RatingStore.save d space r = (.ok (), d.put space (Layout.ratings r)) := by
  simp only [RatingStore.save, save, h]

/-- A database is reliable unless it has a fault. -/
lemma reliable : Reliable reopen fun d => d.fault = none where
  save := by
    intro d hd space r
    exact ⟨_, save_eq_put hd space r, hd, load_put d space r,
      fun other hne => load_put_of_ne d _ hne⟩
  reopened := fun _ => ⟨rfl, fun _ => rfl⟩

lemma upToDate_empty : UpToDate (fun d => d.fault = none) ({} : RatingDatabase) [] where
  sound := rfl
  load := fun _ => rfl

/-! ### Entries in a tree -/

variable {τ : Type} {T : ByteTree τ} {s : TreeRatings T}

/-- The database has no fault, and its entries are in the tree at the bytes of their names. -/
structure Mirrors (d : RatingDatabase) (s : TreeRatings T) : Prop where
  fault : d.fault = none
  entry : ∀ space, d.entries[space]? = T.get? s.tree (Bytes.ofText space)

lemma mirrors_empty : Mirrors {} (⟨T.empty⟩ : TreeRatings T) where
  fault := rfl
  entry := fun space => (T.get?_empty (Bytes.ofText space)).symm

/-- Saving replaces the same entry in both, since no other name has the same bytes. -/
lemma Mirrors.of_save (h : d.Mirrors s) (space : String) (r : Ratings Binary64) :
    (d.put space (Layout.ratings r)).Mirrors (RatingStore.save s space r).2 := by
  refine ⟨h.fault, fun other => ?_⟩
  rw [put, Std.ExtTreeMap.getElem?_insert]
  split
  · next heq =>
    obtain rfl : space = other := by simpa using heq
    exact (T.get?_insert_self _ _ _).symm
  · next hne =>
    have hkeys : Bytes.ofText other ≠ Bytes.ofText space := by
      intro heq
      exact hne (by simp [Bytes.ofText_injective heq])
    exact (h.entry other).trans (T.get?_insert_of_ne _ _ hkeys).symm

/-- Database and tree give the same answer and hold the same entries afterwards. -/
lemma Mirrors.of_answer (h : d.Mirrors s) (call : RatingCall Binary64) :
    (answer reopen d call).1 = (answer TreeRatings.reopen s call).1 ∧
      (answer reopen d call).2.Mirrors (answer TreeRatings.reopen s call).2 := by
  cases call with
  | load space =>
    have hload : RatingStore.load d space = RatingStore.load s space := by
      have hentry := h.entry space
      cases hvalue : T.get? s.tree (Bytes.ofText space) with
      | none => simp only [RatingStore.load, load, hentry, hvalue]
      | some value => simp only [RatingStore.load, load, hentry, hvalue]
    exact ⟨congrArg RatingAnswer.loaded hload, h⟩
  | save space r =>
    simp only [answer, save_eq_put h.fault]
    exact ⟨rfl, h.of_save space r⟩
  | reopen =>
    refine ⟨rfl, rfl, fun space => ?_⟩
    exact (h.entry space).trans (T.get?_reopen s.tree (Bytes.ofText space)).symm

lemma Mirrors.of_after (h : d.Mirrors s) (calls : List (RatingCall Binary64)) :
    (after reopen d calls).Mirrors (after TreeRatings.reopen s calls) := by
  induction calls generalizing d s with
  | nil => exact h
  | cons call calls ih => exact ih (h.of_answer call).2

/-- **A database keeps what was last saved.** After any calls, starting with an empty database,

* a load gives the ratings that were last saved under its name, the same for each document to the
  last bit, and no ratings if none were saved; all saves succeed,
* a tree of bytes with the bytes of the names as its keys gives the same answers and has the same
  entries,
* a store in memory that has the same ratings gives the same answers from then on, if it is not
  given up where the database is reopened. -/
theorem keeps_last_saved (T : ByteTree τ) (calls : List (RatingCall Binary64)) :
    (∀ call, answerAfter reopen {} calls call = call.expected calls) ∧
      (∀ call, answerAfter TreeRatings.reopen (⟨T.empty⟩ : TreeRatings T) calls call =
        call.expected calls) ∧
      (∀ space, (after reopen {} calls).entries[space]? =
        T.get? (after TreeRatings.reopen (⟨T.empty⟩ : TreeRatings T) calls).tree
          (Bytes.ofText space)) ∧
      ∀ m : MemoryRatings Binary64, m.refusal = none →
        (∀ space, RatingStore.load m space = RatingStore.load (after reopen {} calls) space) →
        ∀ more call, answerAfter id m more call = answerAfter reopen {} (calls ++ more) call := by
  have hdatabase := fun calls => upToDate_empty.answerAfter_eq reliable calls
  have hstart : Mirrors {} (⟨T.empty⟩ : TreeRatings T) := mirrors_empty
  have hmirrors := hstart.of_after calls
  refine ⟨hdatabase calls, fun call => ?_, hmirrors.entry, fun m hm hload more call => ?_⟩
  · exact (hmirrors.of_answer call).1.symm.trans (hdatabase calls call)
  · have hnow := upToDate_empty.of_after reliable calls
    have hmemory : UpToDate (fun m => m.refusal = none) m calls :=
      ⟨hm, fun space => (hload space).trans (hnow.load space)⟩
    rw [hmemory.answerAfter_eq RatingStore.reliable_memory, hdatabase]
    rfl

/-- Ratings that are no ordinary numbers: not a number, with a payload; negative infinity; negative
zero. -/
def oddRatings : Ratings Binary64 :=
  Ratings.addAll ∅ [(0, ⟨0x7ff800000000beef⟩), (1, ⟨0xfff0000000000000⟩), (2, ⟨0x8000000000000000⟩)]

/-- Names that are empty or begin with one another. -/
def nestedNames : List (RatingCall Binary64) :=
  [.save "" oddRatings, .save "a" ∅, .reopen, .save "ab" ∅, .save "a" oddRatings]

theorem odd_ratings_last :
    answerAfter reopen {} nestedNames (.load "") = .loaded (.ok oddRatings) ∧
      answerAfter TreeRatings.reopen (⟨ByteTree.functions.empty⟩ : TreeRatings ByteTree.functions)
        nestedNames (.load "a") = .loaded (.ok oddRatings) ∧
      answerAfter id ({} : MemoryRatings Binary64) nestedNames (.load "ab") = .loaded (.ok ∅) := by
  have hempty : lastRatings nestedNames "" = oddRatings := by rfl
  have ha : lastRatings nestedNames "a" = oddRatings := by rfl
  have hab : lastRatings nestedNames "ab" = ∅ := by rfl
  obtain ⟨hdatabase, htree, -, -⟩ := keeps_last_saved ByteTree.functions nestedNames
  obtain ⟨-, -, -, hmemory⟩ := keeps_last_saved ByteTree.functions []
  have hsame := hmemory {} rfl (fun space => rfl) nestedNames (.load "ab")
  rw [List.nil_append] at hsame
  refine ⟨?_, ?_, ?_⟩
  · rw [hdatabase, RatingCall.expected, hempty]
  · rw [htree, RatingCall.expected, ha]
  · rw [hsame, hdatabase, RatingCall.expected, hab]

end RatingDatabase

end DocSearch
