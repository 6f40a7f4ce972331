import Mathlib.Logic.Relation
import DocSearch.Proofs.Query.Connective
import DocSearch.Proofs.Query.Meaning
import DocSearch.Proofs.Ranking.Basic

/-!
# Rewriting queries

Two expressions are interconvertible if the laws of conjunction, disjunction and negation lead from
one to the other, applied in either direction and anywhere inside. Interconvertible expressions have
one and the same normal form (`simplify_expand_of_interconvertible`), so the models that compile
their queries cannot tell them apart.

The laws are stated once for both connectives. They do not include `a ∨ ¬a = true`, which does not
leave the normal form alone. What every law keeps is more than the truth value: whether an
expression is held by a valuation, be it one that grants neither a token nor its negation
(`Interconvertible.heldBy_eq`).
-/

namespace DocSearch.Query

namespace Expr

/-! ## Laws -/

/-- The laws of conjunction, disjunction and negation, each for both connectives. As a connective
may have any number of operands, one of them says what a connective of a single operand is. -/
inductive Law : Expr → Expr → Prop
  | commutativity (k : Connective) {es fs : List Expr} :
      es.Perm fs → Law (k.apply es) (k.apply fs)
  | associativity (k : Connective) (es fs gs : List Expr) :
      Law (k.apply (es ++ k.apply fs :: gs)) (k.apply (es ++ (fs ++ gs)))
  | single (k : Connective) (e : Expr) : Law (k.apply [e]) e
  | idempotence (k : Connective) (e : Expr) (es : List Expr) :
      Law (k.apply (e :: e :: es)) (k.apply (e :: es))
  | absorption (k : Connective) (e : Expr) (es fs : List Expr) :
      Law (k.apply (e :: k.dual.apply (e :: fs) :: es)) (k.apply (e :: es))
  | distributivity (k : Connective) (fs es : List Expr) :
      Law (k.apply (k.dual.apply fs :: es)) (k.dual.apply (fs.map fun f => k.apply (f :: es)))
  | deMorgan (k : Connective) (es : List Expr) :
      Law (.not (k.apply es)) (k.dual.apply (es.map .not))
  | doubleNegation (e : Expr) : Law (.not (.not e)) e

/-- A law applied to a subexpression. -/
inductive Step : Expr → Expr → Prop
  | law {e f : Expr} : Law e f → Step e f
  | not {e f : Expr} : Step e f → Step (.not e) (.not f)
  | operand (k : Connective) (es : List Expr) {e f : Expr} (fs : List Expr) :
      Step e f → Step (k.apply (es ++ e :: fs)) (k.apply (es ++ f :: fs))

/-- Any number of laws applied one after the other, each in one of its directions. -/
def Interconvertible : Expr → Expr → Prop := Relation.EqvGen Step

/-! ## What the laws keep -/

open Connective

variable {e f : Expr} (v : Valuation)

/-- The operands of a connective inside its dual, each taken together with the other operands. -/
lemma value_distributed (k : Connective) (negated : Bool) (fs es : List Expr) :
    (k.pushed negated).dual.value (heldBy v negated) (fs.map fun f => k.apply (f :: es)) =
      (k.pushed negated).op ((k.pushed negated).dual.value (heldBy v negated) fs)
        ((k.pushed negated).value (heldBy v negated) es) := by
  induction fs with
  | nil => rw [List.map_nil, value_nil, dual_unit_op]
  | cons f fs ih =>
    rw [List.map_cons, value_cons, ih, heldBy_apply, value_cons, value_cons, op_distrib]

/-- The negated operands of a connective. -/
lemma value_map_not (k : Connective) (negated : Bool) (es : List Expr) :
    k.value (heldBy v negated) (es.map .not) = k.value (heldBy v (!negated)) es := by
  induction es with
  | nil => rfl
  | cons e es ih => rw [List.map_cons, value_cons, ih, heldBy_not, value_cons]

theorem Law.heldBy_eq (h : Law e f) : ∀ negated, e.heldBy v negated = f.heldBy v negated := by
  intro negated
  cases h with
  | commutativity k hperm => rw [heldBy_apply, heldBy_apply, value_perm _ _ hperm]
  | associativity k es fs gs =>
    -- the inner connective is pushed like the outer one, so it stays the same
    rw [heldBy_apply, heldBy_apply, value_append, value_cons, heldBy_apply, value_append,
      value_append]
  | single k e => rw [heldBy_apply, value_cons, value_nil, op_unit]
  | idempotence k e es =>
    rw [heldBy_apply, heldBy_apply, value_cons, value_cons, ← op_assoc, op_self]
  | absorption k e es fs =>
    rw [heldBy_apply, heldBy_apply, value_cons, value_cons, heldBy_apply, value_cons, dual_pushed,
      ← op_assoc, op_absorb]
    rfl
  | distributivity k fs es =>
    rw [heldBy_apply, heldBy_apply, value_cons, heldBy_apply, dual_pushed, value_distributed]
  | deMorgan k es => rw [heldBy_not, heldBy_apply, heldBy_apply, pushed_not, value_map_not]
  | doubleNegation e => rw [heldBy_not, heldBy_not, Bool.not_not]

theorem Step.heldBy_eq (h : Step e f) : ∀ negated, e.heldBy v negated = f.heldBy v negated := by
  induction h with
  | law hlaw => exact hlaw.heldBy_eq v
  | not _ ih =>
    intro negated
    rw [heldBy_not, heldBy_not, ih]
  | operand k es fs _ ih =>
    intro negated
    rw [heldBy_apply, heldBy_apply, value_append, value_append, value_cons, value_cons, ih]

/-- Interconvertible expressions are held by the same valuations, and so are their negations. -/
theorem Interconvertible.heldBy_eq (h : Interconvertible e f) :
    ∀ negated, e.heldBy v negated = f.heldBy v negated := by
  induction h with
  | rel e f hstep => exact hstep.heldBy_eq v
  | refl e => intro negated; rfl
  | symm e f _ ih => intro negated; exact (ih negated).symm
  | trans e f g _ _ ih₁ ih₂ => intro negated; exact (ih₁ negated).trans (ih₂ negated)

end Expr

/-! ## Normal forms and rankings -/

/-- **The normal form does not depend on how a query is written.** If two interconvertible
expressions can both be expanded, they have the same normal form. Queries with these expressions are
therefore ranked identically by both models that rank normal forms; the vector model ranks bags of
words and never sees an expression. -/
theorem simplify_expand_of_interconvertible {e f : Expr} {cs ds : List Conjunction}
    (h : e.Interconvertible f) (he : expand false e = .ok cs) (hf : expand false f = .ok ds) :
    simplify cs = simplify ds ∧
      ∀ {α : Type} [Scalar α] (c : Compiler) (corpus : Corpus α) (query query' : String),
        c.parse query = .ok (some e) → c.parse query' = .ok (some f) →
          (Model.boolean c).rank corpus query = (Model.boolean c).rank corpus query' ∧
          (Model.extendedBoolean c).rank corpus query =
            (Model.extendedBoolean c).rank corpus query' := by
  have hsame : simplify cs = simplify ds := simplify_congr fun v hv => by
    rw [any_heldBy_expand hv e he, any_heldBy_expand hv f hf, h.heldBy_eq v]
  refine ⟨hsame, ?_⟩
  intro α _ c corpus query query' hquery hquery'
  have hc : c.compile query = .ok (simplify cs) :=
    Compiler.compile_eq_ok_iff.2 (Or.inr ⟨e, cs, hquery, he, rfl⟩)
  have hc' : c.compile query' = .ok (simplify cs) :=
    Compiler.compile_eq_ok_iff.2 (Or.inr ⟨f, ds, hquery', hf, hsame⟩)
  rw [Model.rank_boolean hc, Model.rank_boolean hc', Model.rank_extendedBoolean hc,
    Model.rank_extendedBoolean hc']
  exact ⟨rfl, rfl⟩

/-- An absorption inside a disjunction, and a query with its operands swapped. -/
theorem absorbed_and_swapped_digits :
    expand false (.or [.literal "2", .and [.literal "1", .or [.literal "1", .literal "2"]]]) =
        .ok [⟨[⟨"2", false⟩]⟩, ⟨[⟨"1", false⟩]⟩, ⟨[⟨"1", false⟩, ⟨"2", false⟩]⟩] ∧
      expand false (.or [.literal "2", .literal "1"]) =
        .ok [⟨[⟨"2", false⟩]⟩, ⟨[⟨"1", false⟩]⟩] ∧
      simplify [⟨[⟨"2", false⟩]⟩, ⟨[⟨"1", false⟩]⟩, ⟨[⟨"1", false⟩, ⟨"2", false⟩]⟩] =
        simplify [⟨[⟨"2", false⟩]⟩, ⟨[⟨"1", false⟩]⟩] ∧
      ({} : Compiler).parse "1 2" = .ok (some (.and [.literal "1", .literal "2"])) ∧
      ({} : Compiler).parse "2 1" = .ok (some (.and [.literal "2", .literal "1"])) ∧
      ∀ corpus : Corpus Binary64,
        (Model.boolean {}).rank corpus "1 2" = (Model.boolean {}).rank corpus "2 1" ∧
        (Model.extendedBoolean {}).rank corpus "1 2" =
          (Model.extendedBoolean {}).rank corpus "2 1" := by
  have habsorbed : Expr.Interconvertible
      (.or [.literal "2", .and [.literal "1", .or [.literal "1", .literal "2"]]])
      (.or [.literal "2", .literal "1"]) := by
    refine .trans _ (.or [.literal "2", .and [.literal "1"]]) _ (.rel _ _ ?_) (.rel _ _ ?_)
    · refine .operand .or [.literal "2"] [] (.law ?_)
      exact .absorption .and (.literal "1") [] [.literal "2"]
    · exact .operand .or [.literal "2"] [] (.law (.single .and (.literal "1")))
  have hswapped : Expr.Interconvertible (.and [.literal "1", .literal "2"])
      (.and [.literal "2", .literal "1"]) :=
    .rel _ _ (.law (.commutativity .and (List.Perm.swap _ _ _)))
  have htokens : ({} : Compiler).tokens "2 1" = [.term "2", .and, .term "1"] :=
    Compiler.tokens_two_digits (by decide) (by decide)
  have hparse : ({} : Compiler).parse "2 1" = .ok (some (.and [.literal "2", .literal "1"])) := by
    rw [Compiler.parse_of_tokens_ne_nil (by rw [htokens]; exact List.cons_ne_nil _ _), htokens]
    cbv
  have hexpand : expand false (.and [.literal "1", .literal "2"]) =
      .ok [⟨[⟨"1", false⟩, ⟨"2", false⟩]⟩] := by cbv
  have hexpand' : expand false (.and [.literal "2", .literal "1"]) =
      .ok [⟨[⟨"1", false⟩, ⟨"2", false⟩]⟩] := by cbv
  refine ⟨by cbv, by cbv, (simplify_expand_of_interconvertible habsorbed (by cbv) (by cbv)).1,
    Compiler.parse_two_digits, hparse, ?_⟩
  intro corpus
  exact (simplify_expand_of_interconvertible hswapped hexpand hexpand').2 {} corpus "1 2" "2 1"
    Compiler.parse_two_digits hparse

end DocSearch.Query
