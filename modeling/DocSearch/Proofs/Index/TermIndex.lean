import Mathlib.Logic.Relation
import Mathlib.Tactic.Lemma
import DocSearch.Index.TermIndex

/-!
# Building the term index

An index changes in two ways only while documents are added: a new token gets the next id, and a
term is counted in one more document (`TermIndex.Step`). What all of building keeps is proved of
these steps: known tokens keep their ids (`Grows.termId?_eq`), and as long as ids do not run out the
dictionary and the list of terms are inverse to each other (`Grows.invertible`).

A vector is made while ids are still being given out. Since ids are kept, it may as well be read off
the finished index (`addDocuments_vectors`).
-/

namespace DocSearch

/-! ## Bags of terms -/

namespace TermVector

lemma mem_bump {v : TermVector} {s t : TermId} : s ∈ v.bump t ↔ t = s ∨ s ∈ v := by
  rw [bump, Std.ExtTreeMap.mem_alter]
  by_cases h : t = s
  · simp [h]
  · simp [h]

lemma mem_foldl_bump {s : TermId} {ts : List TermId} :
    ∀ {v : TermVector}, s ∈ ts.foldl bump v ↔ s ∈ v ∨ s ∈ ts := by
  induction ts with
  | nil => simp
  | cons t ts ih =>
    intro v
    rw [List.foldl_cons, ih, mem_bump, List.mem_cons, eq_comm, or_comm (a := s = t), or_assoc]

end TermVector

namespace TermIndex

/-! ## Steps of building -/

/-- A token that is not in the index gets the next id, or a term is counted in one more document. -/
inductive Step : TermIndex → TermIndex → Prop
  | push {x : TermIndex} {token : String} : x.termId? token = none → Step x (x.push token)
  | countDocument (x : TermIndex) (t : TermId) : Step x (x.countDocument t)

/-- An index is turned into another one by steps of building. -/
def Grows : TermIndex → TermIndex → Prop := Relation.ReflTransGen Step

/-- The dictionary and the list of terms are inverse to each other. -/
def Invertible (x : TermIndex) : Prop :=
  ∀ token t, x.termId? token = some t ↔ x.token? t = some token

variable {x y z : TermIndex}

lemma termId?_push (token u : String) :
    (x.push token).termId? u = if token = u then some x.size.toUInt32 else x.termId? u := by
  rw [termId?, push, Std.ExtTreeMap.getElem?_insert]
  simp [termId?, size]

lemma termId?_push_self (token : String) :
    (x.push token).termId? token = some x.size.toUInt32 := by
  rw [termId?_push, if_pos rfl]

lemma token?_push (token : String) (t : TermId) :
    (x.push token).token? t = if t.toNat = x.size then some token else x.token? t :=
  Array.getElem?_push

@[simp] lemma size_push (token : String) : (x.push token).size = x.size + 1 :=
  Array.size_push token

@[simp] lemma termId?_countDocument (t : TermId) (token : String) :
    (x.countDocument t).termId? token = x.termId? token := rfl

@[simp] lemma token?_countDocument (s t : TermId) :
    (x.countDocument t).token? s = x.token? s := rfl

@[simp] lemma size_countDocument (t : TermId) : (x.countDocument t).size = x.size := rfl

lemma Step.size_le (h : Step x y) : x.size ≤ y.size := by
  cases h with
  | push hnew => rw [size_push]; exact Nat.le_succ _
  | countDocument t => exact Nat.le_of_eq (size_countDocument t).symm

lemma Step.termId?_eq (h : Step x y) {token : String} {t : TermId}
    (hx : x.termId? token = some t) : y.termId? token = some t := by
  cases h with
  | @push u hnew =>
    have hne : u ≠ token := by
      rintro rfl
      rw [hnew] at hx
      exact absurd hx (by simp)
    rw [termId?_push, if_neg hne, hx]
  | countDocument t => rw [termId?_countDocument, hx]

lemma lt_size_of_token? {token : String} {t : TermId} (h : x.token? t = some token) :
    t.toNat < x.size :=
  (Array.getElem?_eq_some_iff.1 h).1

lemma Step.invertible (h : Step x y) (hx : x.Invertible) (hy : y.size ≤ UInt32.size) :
    y.Invertible := by
  cases h with
  | countDocument t =>
    intro token s
    rw [termId?_countDocument, token?_countDocument]
    exact hx token s
  | @push token hnew =>
    have hsize : x.size.toUInt32.toNat = x.size := by
      rw [size_push] at hy
      exact Nat.mod_eq_of_lt hy
    intro u t
    rw [termId?_push, token?_push]
    by_cases htop : t.toNat = x.size
    · -- the id that is given out now was not in use before
      have ht : x.size.toUInt32 = t := UInt32.toNat_inj.1 (hsize.trans htop.symm)
      have hfresh : x.termId? u ≠ some t := fun hu =>
        Nat.ne_of_lt (lt_size_of_token? ((hx u t).1 hu)) htop
      by_cases hu : token = u <;> simp [hu, ht, htop, hfresh]
    · have ht : x.size.toUInt32 ≠ t := fun heq => htop (by rw [← heq, hsize])
      by_cases hu : token = u
      · -- the new token was not among the terms before
        have hfresh : x.token? t ≠ some u := fun hu' => by
          rw [← (hx u t), ← hu, hnew] at hu'
          exact absurd hu' (by simp)
        simp [hu, ht, htop, hfresh]
      · simp [hu, htop, hx u t]

/-! ## All of building -/

lemma Grows.trans (h₁ : Grows x y) (h₂ : Grows y z) : Grows x z :=
  Relation.ReflTransGen.trans h₁ h₂

/-- Known tokens keep their ids. -/
theorem Grows.termId?_eq (h : Grows x y) {token : String} {t : TermId}
    (hx : x.termId? token = some t) : y.termId? token = some t := by
  induction h with
  | refl => exact hx
  | tail _ hstep ih => exact hstep.termId?_eq ih

/-- Dictionary and list of terms stay inverse to each other, unless there are more terms than
ids. -/
theorem Grows.invertible (h : Grows x y) (hx : x.Invertible) (hy : y.size ≤ UInt32.size) :
    y.Invertible := by
  induction h with
  | refl => exact hx
  | tail _ hstep ih => exact hstep.invertible (ih (Nat.le_trans hstep.size_le hy)) hy

lemma invertible_empty : ({} : TermIndex).Invertible := by
  intro token t
  simp [termId?, token?]

/-! ## The programs that build -/

lemma grows_foldl_countDocument (ts : List TermId) : ∀ x : TermIndex,
    Grows x (ts.foldl countDocument x) := by
  induction ts with
  | nil => intro x; exact .refl
  | cons t ts ih =>
    intro x
    exact .head (.countDocument x t) (ih (x.countDocument t))

lemma grows_countTokens (x : TermIndex) (v : TermVector) (tokens : List String) :
    Grows x (x.countTokens v tokens).1 := by
  fun_induction countTokens x v tokens with
  | case1 => exact .refl
  | case2 x v token tokens t ht ih => exact ih
  | case3 x v token tokens hnew ih => exact .head (.push hnew) ih

lemma grows_addDocument (x : TermIndex) (tokens : List String) :
    Grows x (x.addDocument tokens).1 :=
  (grows_countTokens x ∅ tokens).trans (grows_foldl_countDocument _ _)

lemma addDocuments_cons (x : TermIndex) (d : Document) (ds : List Document) :
    x.addDocuments (d :: ds) =
      (((x.addDocument d.tokens).1.addDocuments ds).1,
        (x.addDocument d.tokens).2 :: ((x.addDocument d.tokens).1.addDocuments ds).2) := rfl

theorem grows_addDocuments (ds : List Document) : ∀ x : TermIndex,
    Grows x (x.addDocuments ds).1 := by
  induction ds with
  | nil => intro x; exact .refl
  | cons d ds ih =>
    intro x
    exact (grows_addDocument x d.tokens).trans (ih (x.addDocument d.tokens).1)

lemma size_countTokens_le (x : TermIndex) (v : TermVector) (tokens : List String) :
    (x.countTokens v tokens).1.size ≤ x.size + tokens.length := by
  fun_induction countTokens x v tokens with
  | case1 => exact Nat.le_refl _
  | case2 x v token tokens t ht ih => rw [List.length_cons]; omega
  | case3 x v token tokens hnew ih => rw [size_push] at ih; rw [List.length_cons]; omega

lemma size_foldl_countDocument (ts : List TermId) : ∀ x : TermIndex,
    (ts.foldl countDocument x).size = x.size := by
  induction ts with
  | nil => intro x; rfl
  | cons t ts ih => intro x; rw [List.foldl_cons, ih, size_countDocument]

lemma size_addDocument_le (x : TermIndex) (tokens : List String) :
    (x.addDocument tokens).1.size ≤ x.size + tokens.length := by
  rw [addDocument, size_foldl_countDocument]
  exact size_countTokens_le x ∅ tokens

/-- There are no more terms than tokens. -/
theorem size_addDocuments_le (ds : List Document) : ∀ x : TermIndex,
    (x.addDocuments ds).1.size ≤ x.size + (ds.flatMap Document.tokens).length := by
  induction ds with
  | nil => intro x; exact Nat.le_refl _
  | cons d ds ih =>
    intro x
    have hhead := size_addDocument_le x d.tokens
    have htail := ih (x.addDocument d.tokens).1
    rw [List.flatMap_cons, List.length_append]
    show ((x.addDocument d.tokens).1.addDocuments ds).1.size ≤ _
    omega

/-! ## Vectors read off the finished index -/

/-- All tokens of a list are in the index. -/
def Knows (x : TermIndex) (tokens : List String) : Prop :=
  ∀ token ∈ tokens, ∃ t, x.termId? token = some t

lemma Knows.notMem {tokens : List String} (h : x.Knows tokens) {token : String}
    (hnone : x.termId? token = none) : token ∉ tokens := by
  intro htoken
  obtain ⟨t, ht⟩ := h token htoken
  exact absurd (hnone.symm.trans ht) (by simp)

lemma Grows.knows (h : Grows x y) {tokens : List String} (hx : x.Knows tokens) :
    y.Knows tokens := by
  intro token htoken
  obtain ⟨t, ht⟩ := hx token htoken
  exact ⟨t, h.termId?_eq ht⟩

lemma knows_countTokens (x : TermIndex) (v : TermVector) (tokens : List String) :
    (x.countTokens v tokens).1.Knows tokens := by
  fun_induction countTokens x v tokens with
  | case1 =>
    intro token htoken
    exact absurd htoken List.not_mem_nil
  | case2 x v token tokens t ht ih =>
    have hhead := (grows_countTokens x (v.bump t) tokens).termId?_eq ht
    exact List.forall_mem_cons.2 ⟨⟨t, hhead⟩, ih⟩
  | case3 x v token tokens hnew ih =>
    have hgrows := grows_countTokens (x.push token) (v.bump x.size.toUInt32) tokens
    have hhead := hgrows.termId?_eq (termId?_push_self token)
    exact List.forall_mem_cons.2 ⟨⟨_, hhead⟩, ih⟩

/-- The vector that is counted while ids are given out is the one that the finished index gives. -/
lemma countTokens_vector (x : TermIndex) (v : TermVector) (tokens : List String)
    (hz : Grows (x.countTokens v tokens).1 z) :
    (x.countTokens v tokens).2 = (tokens.filterMap z.termId?).foldl TermVector.bump v := by
  fun_induction countTokens x v tokens with
  | case1 => rfl
  | case2 x v token tokens t ht ih =>
    have hhead := ((grows_countTokens x (v.bump t) tokens).trans hz).termId?_eq ht
    rw [List.filterMap_cons_some hhead, List.foldl_cons]
    exact ih hz
  | case3 x v token tokens hnew ih =>
    -- the id that is given out here is still that of the token in `z`
    have hgrows := grows_countTokens (x.push token) (v.bump x.size.toUInt32) tokens
    have hhead := (hgrows.trans hz).termId?_eq (termId?_push_self token)
    rw [List.filterMap_cons_some hhead, List.foldl_cons]
    exact ih hz

lemma knows_addDocument (x : TermIndex) (tokens : List String) :
    (x.addDocument tokens).1.Knows tokens :=
  (grows_foldl_countDocument _ _).knows (knows_countTokens x ∅ tokens)

lemma addDocument_vector (x : TermIndex) (tokens : List String)
    (hz : Grows (x.addDocument tokens).1 z) :
    (x.addDocument tokens).2 = z.bagOfWords tokens :=
  countTokens_vector x ∅ tokens ((grows_foldl_countDocument _ _).trans hz)

theorem knows_addDocuments (ds : List Document) : ∀ x : TermIndex,
    ∀ d ∈ ds, (x.addDocuments ds).1.Knows d.tokens := by
  induction ds with
  | nil =>
    intro x d hd
    exact absurd hd List.not_mem_nil
  | cons d ds ih =>
    intro x
    have hhead := (grows_addDocuments ds _).knows (knows_addDocument x d.tokens)
    exact List.forall_mem_cons.2 ⟨hhead, ih (x.addDocument d.tokens).1⟩

/-- Whatever is added later, the vector of a document is the one that the index gives for its
tokens. -/
theorem addDocuments_vectors (ds : List Document) : ∀ {x z : TermIndex},
    Grows (x.addDocuments ds).1 z →
      (x.addDocuments ds).2 = ds.map fun d => z.bagOfWords d.tokens := by
  induction ds with
  | nil => intro x z _; rfl
  | cons d ds ih =>
    intro x z hz
    have hhead := addDocument_vector x d.tokens ((grows_addDocuments ds _).trans hz)
    have htail : ((x.addDocument d.tokens).1.addDocuments ds).2 =
        ds.map fun d => z.bagOfWords d.tokens := ih hz
    rw [addDocuments_cons, List.map_cons, ← hhead, ← htail]

/-- A term is in the bag of a list exactly if one of the tokens has its id. -/
lemma mem_bagOfWords {t : TermId} {tokens : List String} :
    t ∈ x.bagOfWords tokens ↔ ∃ token ∈ tokens, x.termId? token = some t := by
  rw [bagOfWords, TermVector.mem_foldl_bump, List.mem_filterMap]
  simp

/-- A token whose id is in the bag of a list is a member of the list. -/
lemma Invertible.mem_bagOfWords_iff (hx : x.Invertible) {token : String} {t : TermId}
    (ht : x.termId? token = some t) {tokens : List String} :
    t ∈ x.bagOfWords tokens ↔ token ∈ tokens := by
  rw [mem_bagOfWords]
  constructor
  · rintro ⟨u, hu, hut⟩
    have hsame : some token = some u := ((hx token t).1 ht).symm.trans ((hx u t).1 hut)
    rwa [Option.some.inj hsame]
  · intro htoken
    exact ⟨token, htoken, ht⟩

end TermIndex

end DocSearch
