import DocSearch.Proofs.Query.Valuation

/-!
# The two connectives

Conjunction and disjunction have the same laws with their roles swapped. What is true of both is
stated once, of a connective: how it combines truth values, and how a valuation reads it.
-/

namespace DocSearch.Query

/-- Conjunction or disjunction. -/
inductive Connective where
  | and
  | or

namespace Connective

/-- The expression that the connective makes of its operands. -/
def apply : Connective → List Expr → Expr
  | .and => .and
  | .or => .or

/-- The other connective. -/
def dual : Connective → Connective
  | .and => .or
  | .or => .and

/-- The connective that is left when a negation has been pushed past it. -/
def pushed (k : Connective) (negated : Bool) : Connective :=
  if negated then k.dual else k

/-- The connective of two truth values. -/
def op : Connective → Bool → Bool → Bool
  | .and => Bool.and
  | .or => Bool.or

/-- The connective of no truth values. -/
def unit : Connective → Bool
  | .and => true
  | .or => false

/-- The connective of the truth values of the operands. -/
def value (k : Connective) (p : Expr → Bool) (es : List Expr) : Bool :=
  es.foldr (fun e b => k.op (p e) b) k.unit

variable (k : Connective)

@[simp] lemma dual_dual : k.dual.dual = k := by
  cases k <;> rfl

lemma dual_pushed (negated : Bool) : k.dual.pushed negated = (k.pushed negated).dual := by
  cases negated <;> rfl

lemma pushed_not (negated : Bool) : k.pushed (!negated) = k.dual.pushed negated := by
  cases negated
  · rfl
  · exact (dual_dual k).symm

section Truth

variable (a b c : Bool)

@[simp] lemma unit_op : k.op k.unit a = a := by
  cases k <;> cases a <;> rfl

@[simp] lemma op_unit : k.op a k.unit = a := by
  cases k <;> cases a <;> rfl

lemma op_assoc : k.op (k.op a b) c = k.op a (k.op b c) := by
  cases k <;> cases a <;> rfl

lemma op_left_comm : k.op a (k.op b c) = k.op b (k.op a c) := by
  cases k <;> cases a <;> cases b <;> rfl

lemma op_self : k.op a a = a := by
  cases k <;> cases a <;> rfl

lemma op_absorb : k.op a (k.dual.op a b) = a := by
  cases k <;> cases a <;> cases b <;> rfl

lemma dual_unit_op : k.op k.dual.unit a = k.dual.unit := by
  cases k <;> rfl

lemma op_distrib : k.op (k.dual.op a b) c = k.dual.op (k.op a c) (k.op b c) := by
  cases k <;> cases a <;> cases b <;> cases c <;> rfl

end Truth

section Operands

variable (p : Expr → Bool) (e : Expr) (es fs : List Expr)

@[simp] lemma value_nil : k.value p [] = k.unit := rfl

@[simp] lemma value_cons : k.value p (e :: es) = k.op (p e) (k.value p es) := rfl

lemma value_append : k.value p (es ++ fs) = k.op (k.value p es) (k.value p fs) := by
  induction es with
  | nil => rw [List.nil_append, value_nil, unit_op]
  | cons e es ih => rw [List.cons_append, value_cons, ih, value_cons, op_assoc]

lemma value_perm {es fs : List Expr} (h : es.Perm fs) : k.value p es = k.value p fs := by
  induction h with
  | nil => rfl
  | cons e _ ih => rw [value_cons, value_cons, ih]
  | swap e f es => simp only [value_cons, op_left_comm k (p e) (p f)]
  | trans _ _ ih₁ ih₂ => exact ih₁.trans ih₂

lemma value_and : Connective.and.value p es = es.all p := by
  induction es with
  | nil => rfl
  | cons e es ih => rw [value_cons, ih, List.all_cons, op]

lemma value_or : Connective.or.value p es = es.any p := by
  induction es with
  | nil => rfl
  | cons e es ih => rw [value_cons, ih, List.any_cons, op]

end Operands

/-- Whichever connective it is, a valuation reads it in the same way. -/
lemma heldBy_apply (v : Valuation) (negated : Bool) (es : List Expr) :
    (k.apply es).heldBy v negated = (k.pushed negated).value (Expr.heldBy v negated) es := by
  cases k <;> cases negated
  · exact (Expr.heldBy_and v es).trans (value_and _ es).symm
  · exact (Expr.heldBy_and_negated v es).trans (value_or _ es).symm
  · exact (Expr.heldBy_or v es).trans (value_or _ es).symm
  · exact (Expr.heldBy_or_negated v es).trans (value_and _ es).symm

end Connective

end DocSearch.Query
