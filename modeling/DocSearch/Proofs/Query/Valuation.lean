import Mathlib.Data.Bool.Basic
import DocSearch.Query.Expr
import DocSearch.Proofs.Basic

/-!
# Valuations of literals

A truth assignment says of every token whether it is present. A valuation says of every literal
whether it is granted, and treats a token and its negation as two different things, so it may grant
neither of them. An expression is read under a valuation by pushing its negations down to the
literals (`Expr.heldBy`).

Two kinds of valuations are of interest, and both are consistent: those of assignments
(`Valuation.ofAssignment`), under which an expression holds exactly if it is true, and those that
grant the literals of one conjunction (`Valuation.ofLiterals`), under which an expression holds if
the conjunction alone settles it. Facts that are proved of all consistent valuations therefore speak
of the meaning of queries and of the shape of their normal forms at the same time.
-/

namespace DocSearch.Query

/-- Which literals are granted. -/
abbrev Valuation := Literal → Bool

/-- No token occurs both plain and negated. -/
def ConsistentLiterals (ls : List Literal) : Prop :=
  ∀ t, ¬ (⟨t, false⟩ ∈ ls ∧ ⟨t, true⟩ ∈ ls)

namespace Valuation

/-- No token is granted together with its negation. -/
def Consistent (v : Valuation) : Prop :=
  ∀ t, ¬ (v ⟨t, false⟩ = true ∧ v ⟨t, true⟩ = true)

/-- The literals that hold under an assignment. -/
def ofAssignment (a : Assignment) : Valuation := fun l => l.eval a

/-- The literals of a list. -/
def ofLiterals (ls : List Literal) : Valuation := fun l => decide (l ∈ ls)

/-- No literal at all. -/
def empty : Valuation := fun _ => false

lemma consistent_ofAssignment (a : Assignment) : (ofAssignment a).Consistent := by
  rintro t ⟨hf, ht⟩
  simp only [ofAssignment, Literal.eval, bne_iff_ne, ne_eq] at hf ht
  exact ht (Bool.eq_true_of_not_eq_false hf)

lemma consistent_ofLiterals {ls : List Literal} (h : ConsistentLiterals ls) :
    (ofLiterals ls).Consistent := by
  rintro t ⟨hf, ht⟩
  exact h t ⟨of_decide_eq_true hf, of_decide_eq_true ht⟩

lemma consistent_empty : empty.Consistent := by
  rintro t ⟨hf, -⟩
  exact absurd hf Bool.false_ne_true

end Valuation

/-! ## Reading conjunctions and expressions under a valuation -/

/-- All literals of the conjunction are granted. -/
def Conjunction.heldBy (v : Valuation) (c : Conjunction) : Bool :=
  c.literals.all v

lemma Conjunction.heldBy_iff {v : Valuation} {c : Conjunction} :
    c.heldBy v = true ↔ ∀ l ∈ c.literals, v l = true :=
  List.all_eq_true

lemma Conjunction.heldBy_ofAssignment (a : Assignment) (c : Conjunction) :
    c.heldBy (.ofAssignment a) = c.eval a := rfl

lemma Conjunction.heldBy_ofLiterals {ls : List Literal} {c : Conjunction} :
    c.heldBy (.ofLiterals ls) = true ↔ c.literals ⊆ ls := by
  simp [heldBy_iff, Valuation.ofLiterals, List.subset_def]

/-- The literals granted under a valuation are consistent if the valuation is. -/
lemma Conjunction.consistent_of_heldBy {v : Valuation} (hv : v.Consistent) {c : Conjunction}
    (h : c.heldBy v = true) : ConsistentLiterals c.literals := by
  rintro t ⟨hf, ht⟩
  exact hv t ⟨heldBy_iff.1 h _ hf, heldBy_iff.1 h _ ht⟩

namespace Expr

/-- Induction on expressions in which the members of `and` and `or` may be assumed. -/
@[elab_as_elim]
theorem inductionOn {motive : Expr → Prop} (e : Expr)
    (literal : ∀ t, motive (.literal t))
    (not : ∀ e, motive e → motive (.not e))
    (and : ∀ es, (∀ e ∈ es, motive e) → motive (.and es))
    (or : ∀ es, (∀ e ∈ es, motive e) → motive (.or es)) : motive e :=
  @Expr.rec motive (fun es => ∀ e ∈ es, motive e) literal not and or
    (fun _ h => absurd h List.not_mem_nil)
    (fun _ _ he hes _ h => (List.mem_cons.1 h).elim (fun heq => heq ▸ he) (hes _)) e

mutual

/-- The expression, or its negation if `negated`, holds when its negations are pushed down to the
literals and just the granted literals are true. -/
def heldBy (v : Valuation) (negated : Bool) : Expr → Bool
  | .literal t => v ⟨t, negated⟩
  | .not e => heldBy v (!negated) e
  | .and es => if negated then anyHeldBy v negated es else allHeldBy v negated es
  | .or es => if negated then allHeldBy v negated es else anyHeldBy v negated es

/-- All expressions of a list are held. -/
def allHeldBy (v : Valuation) (negated : Bool) : List Expr → Bool
  | [] => true
  | e :: es => heldBy v negated e && allHeldBy v negated es

/-- Some expression of a list is held. -/
def anyHeldBy (v : Valuation) (negated : Bool) : List Expr → Bool
  | [] => false
  | e :: es => heldBy v negated e || anyHeldBy v negated es

end

section HeldBy

variable (v : Valuation) (negated : Bool)

lemma allHeldBy_eq_all (es : List Expr) :
    allHeldBy v negated es = es.all (heldBy v negated) := by
  induction es with
  | nil => rfl
  | cons e es ih =>
    show (heldBy v negated e && allHeldBy v negated es) = _
    rw [ih, List.all_cons]

lemma anyHeldBy_eq_any (es : List Expr) :
    anyHeldBy v negated es = es.any (heldBy v negated) := by
  induction es with
  | nil => rfl
  | cons e es ih =>
    show (heldBy v negated e || anyHeldBy v negated es) = _
    rw [ih, List.any_cons]

@[simp] lemma heldBy_literal (t : String) : (literal t).heldBy v negated = v ⟨t, negated⟩ := rfl

@[simp] lemma heldBy_not (e : Expr) : (not e).heldBy v negated = e.heldBy v (!negated) :=
  rfl

@[simp] lemma heldBy_and (es : List Expr) : (and es).heldBy v false = es.all (heldBy v false) :=
  allHeldBy_eq_all v false es

@[simp] lemma heldBy_and_negated (es : List Expr) :
    (and es).heldBy v true = es.any (heldBy v true) :=
  anyHeldBy_eq_any v true es

@[simp] lemma heldBy_or (es : List Expr) : (or es).heldBy v false = es.any (heldBy v false) :=
  anyHeldBy_eq_any v false es

@[simp] lemma heldBy_or_negated (es : List Expr) :
    (or es).heldBy v true = es.all (heldBy v true) :=
  allHeldBy_eq_all v true es

end HeldBy

/-! ## Truth values -/

@[simp] lemma eval_literal (a : Assignment) (t : String) : (literal t).eval a = a t := rfl

@[simp] lemma eval_not (a : Assignment) (e : Expr) : (not e).eval a = !e.eval a := rfl

@[simp] lemma eval_and (a : Assignment) (es : List Expr) : (and es).eval a = es.all (eval a) :=
  evalAll_eq_all a es

@[simp] lemma eval_or (a : Assignment) (es : List Expr) : (or es).eval a = es.any (eval a) :=
  evalAny_eq_any a es

/-- Under the valuation of an assignment an expression is held exactly if it is true. -/
theorem heldBy_ofAssignment (a : Assignment) (e : Expr) :
    ∀ negated, e.heldBy (.ofAssignment a) negated = (e.eval a != negated) := by
  induction e using inductionOn with
  | literal t =>
    intro negated
    simp [Valuation.ofAssignment, Literal.eval]
  | not e ih =>
    intro negated
    rw [heldBy_not, ih, eval_not]
    cases e.eval a <;> cases negated <;> rfl
  | and es ih =>
    rintro (_ | _)
    · rw [heldBy_and, eval_and, Bool.bne_false]
      exact all_congr_of_mem fun e he => by rw [ih e he, Bool.bne_false]
    · rw [heldBy_and_negated, eval_and, Bool.bne_true, List.not_all_eq_any_not]
      exact any_congr_of_mem fun e he => by rw [ih e he, Bool.bne_true]
  | or es ih =>
    rintro (_ | _)
    · rw [heldBy_or, eval_or, Bool.bne_false]
      exact any_congr_of_mem fun e he => by rw [ih e he, Bool.bne_false]
    · rw [heldBy_or_negated, eval_or, Bool.bne_true, List.not_any_eq_all_not]
      exact all_congr_of_mem fun e he => by rw [ih e he, Bool.bne_true]

/-! ## Tokens -/

lemma occurrencesIn_eq_flatMap (es : List Expr) : occurrencesIn es = es.flatMap occurrences := by
  induction es with
  | nil => rfl
  | cons e es ih =>
    show e.occurrences ++ occurrencesIn es = _
    rw [ih, List.flatMap_cons]

@[simp] lemma mem_occurrences_and {t : String} {es : List Expr} :
    t ∈ (and es).occurrences ↔ ∃ e ∈ es, t ∈ e.occurrences := by
  show t ∈ occurrencesIn es ↔ _
  rw [occurrencesIn_eq_flatMap, List.mem_flatMap]

@[simp] lemma mem_occurrences_or {t : String} {es : List Expr} :
    t ∈ (or es).occurrences ↔ ∃ e ∈ es, t ∈ e.occurrences := by
  show t ∈ occurrencesIn es ↔ _
  rw [occurrencesIn_eq_flatMap, List.mem_flatMap]

/-- Only the literals over tokens of the expression matter. -/
theorem heldBy_congr {v w : Valuation} {e : Expr}
    (h : ∀ t ∈ e.occurrences, ∀ negated, v ⟨t, negated⟩ = w ⟨t, negated⟩) :
    ∀ negated, e.heldBy v negated = e.heldBy w negated := by
  induction e using inductionOn with
  | literal t =>
    intro negated
    simpa using h t (by simp [occurrences]) negated
  | not e ih =>
    intro negated
    rw [heldBy_not, heldBy_not]
    exact ih (fun t ht => h t (by rwa [occurrences])) _
  | and es ih =>
    have hes : ∀ e ∈ es, ∀ negated, e.heldBy v negated = e.heldBy w negated :=
      fun e he => ih e he fun t ht => h t (mem_occurrences_and.2 ⟨e, he, ht⟩)
    rintro (_ | _)
    · rw [heldBy_and, heldBy_and]
      exact all_congr_of_mem fun e he => hes e he false
    · rw [heldBy_and_negated, heldBy_and_negated]
      exact any_congr_of_mem fun e he => hes e he true
  | or es ih =>
    have hes : ∀ e ∈ es, ∀ negated, e.heldBy v negated = e.heldBy w negated :=
      fun e he => ih e he fun t ht => h t (mem_occurrences_or.2 ⟨e, he, ht⟩)
    rintro (_ | _)
    · rw [heldBy_or, heldBy_or]
      exact any_congr_of_mem fun e he => hes e he false
    · rw [heldBy_or_negated, heldBy_or_negated]
      exact all_congr_of_mem fun e he => hes e he true

/-! ## Expressions without empty conjunctions and disjunctions -/

/-- Every conjunction and disjunction inside the expression has an operand. -/
inductive Proper : Expr → Prop
  | literal (t : String) : Proper (.literal t)
  | not {e : Expr} : Proper e → Proper (.not e)
  | and {es : List Expr} : es ≠ [] → (∀ e ∈ es, Proper e) → Proper (.and es)
  | or {es : List Expr} : es ≠ [] → (∀ e ∈ es, Proper e) → Proper (.or es)

/-- A proper expression is settled by no empty conjunction: without any literal neither it nor its
negation holds. -/
theorem Proper.heldBy_empty {e : Expr} (h : e.Proper) :
    ∀ negated, e.heldBy .empty negated = false := by
  have all_false : ∀ {es : List Expr} {negated : Bool}, es ≠ [] →
      (∀ e ∈ es, e.heldBy .empty negated = false) → es.all (heldBy .empty negated) = false := by
    intro es negated hne hes
    obtain ⟨e, he⟩ := List.exists_mem_of_ne_nil es hne
    exact List.all_eq_false.2 ⟨e, he, by simp [hes e he]⟩
  have any_false : ∀ {es : List Expr} {negated : Bool},
      (∀ e ∈ es, e.heldBy .empty negated = false) → es.any (heldBy .empty negated) = false := by
    intro es negated hes
    exact List.any_eq_false.2 fun e he => by simp [hes e he]
  induction h with
  | literal t => intro negated; rfl
  | not _ ih =>
    intro negated
    rw [heldBy_not]
    exact ih _
  | and hne _ ih =>
    rintro (_ | _)
    · rw [heldBy_and]
      exact all_false hne fun e he => ih e he false
    · rw [heldBy_and_negated]
      exact any_false fun e he => ih e he true
  | or hne _ ih =>
    rintro (_ | _)
    · rw [heldBy_or]
      exact any_false fun e he => ih e he false
    · rw [heldBy_or_negated]
      exact all_false hne fun e he => ih e he true

end Expr

end DocSearch.Query
