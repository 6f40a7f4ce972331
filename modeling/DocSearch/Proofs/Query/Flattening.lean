import DocSearch.Proofs.Query.Connective

/-!
# Flat expressions

An expression is flat if each of its conjunctions and disjunctions has at least two operands, none
of its own kind. `Expr.flatten` spreads out what stands directly inside its own kind, which leaves
the truth values alone (`Expr.eval_flatten`).

The parser does not flatten a finished tree. It joins operands that are flat already, spreading out
those of the kind that is being made (`Connective.join`). The result is the same
(`Connective.flatten_node`).
-/

namespace DocSearch.Query

namespace Expr

mutual

/-- The expression with conjunctions directly inside conjunctions and disjunctions directly inside
disjunctions spread out. -/
def flatten : Expr → Expr
  | .literal t => .literal t
  | .not e => .not (flatten e)
  | .and es => .and (flatOperands .and es)
  | .or es => .or (flatOperands .or es)

/-- The operands of a connective after flattening: an operand of the same kind is replaced by its
own ones. -/
def flatOperands : Connective → List Expr → List Expr
  | _, [] => []
  | .and, .and fs :: es => flatOperands .and fs ++ flatOperands .and es
  | .or, .or fs :: es => flatOperands .or fs ++ flatOperands .or es
  | k, e :: es => flatten e :: flatOperands k es

end

/-- Every conjunction and disjunction inside the expression has at least two operands, none of its
own kind. -/
inductive Flat : Expr → Prop
  | literal (t : String) : Flat (.literal t)
  | not {e : Expr} : Flat e → Flat (.not e)
  | and {es : List Expr} :
      2 ≤ es.length → (∀ e ∈ es, Flat e) → (∀ e ∈ es, ∀ fs, e ≠ .and fs) → Flat (.and es)
  | or {es : List Expr} :
      2 ≤ es.length → (∀ e ∈ es, Flat e) → (∀ e ∈ es, ∀ fs, e ≠ .or fs) → Flat (.or es)

end Expr

namespace Connective

/-- What an expression contributes to the operands of a connective around it. -/
def operands : Connective → Expr → List Expr
  | .and => Expr.conjuncts
  | .or => Expr.disjuncts

/-- Operands joined by a connective, those of its own kind spread out. -/
def join : Connective → List Expr → Expr
  | .and => Expr.allOf
  | .or => Expr.anyOf

/-- The tree with the operands: a connective of several, but a single operand stays as it is. -/
def node (k : Connective) : List Expr → Expr
  | [e] => e
  | es => k.apply es

variable (k : Connective) {e : Expr} {es : List Expr}

lemma join_eq_node (es : List Expr) : k.join es = k.node (es.flatMap k.operands) := by
  cases k
  · rw [join, Expr.allOf, operands]
    rcases es.flatMap Expr.conjuncts with _ | ⟨e, _ | ⟨f, fs⟩⟩ <;> rfl
  · rw [join, Expr.anyOf, operands]
    rcases es.flatMap Expr.disjuncts with _ | ⟨e, _ | ⟨f, fs⟩⟩ <;> rfl

lemma node_cons_cons (e f : Expr) (es : List Expr) :
    k.node (e :: f :: es) = k.apply (e :: f :: es) := rfl

lemma node_of_length (h : 2 ≤ es.length) : k.node es = k.apply es := by
  match es, h with
  | e :: f :: es, _ => rfl

@[simp] lemma operands_apply (es : List Expr) : k.operands (k.apply es) = es := by
  cases k <;> rfl

lemma operands_of_ne_apply (h : ∀ fs, e ≠ k.apply fs) : k.operands e = [e] := by
  cases k <;> cases e <;> simp_all [operands, apply, Expr.conjuncts, Expr.disjuncts]

lemma flatten_apply (es : List Expr) :
    (k.apply es).flatten = k.apply (Expr.flatOperands k es) := by
  cases k <;> simp only [apply, Expr.flatten]

lemma flatOperands_eq_flatMap (es : List Expr) :
    Expr.flatOperands k es = (es.map Expr.flatten).flatMap k.operands := by
  induction es with
  | nil => simp [Expr.flatOperands]
  | cons e es ih =>
    cases k <;> cases e <;>
      simp [Expr.flatOperands, Expr.flatten, operands, Expr.conjuncts, Expr.disjuncts] at ih ⊢ <;>
      exact ih

lemma eval_apply (a : Assignment) (es : List Expr) :
    (k.apply es).eval a = k.value (Expr.eval a) es := by
  cases k
  · exact (Expr.eval_and a es).trans (value_and _ es).symm
  · exact (Expr.eval_or a es).trans (value_or _ es).symm

lemma value_operands (a : Assignment) (e : Expr) :
    k.value (Expr.eval a) (k.operands e) = e.eval a := by
  rcases Classical.em (∃ fs, e = k.apply fs) with ⟨fs, rfl⟩ | hkind
  · rw [operands_apply, eval_apply]
  · rw [operands_of_ne_apply k fun fs heq => hkind ⟨fs, heq⟩, value_cons, value_nil, op_unit]

lemma value_flatMap_operands (a : Assignment) (es : List Expr) :
    k.value (Expr.eval a) (es.flatMap k.operands) = k.value (Expr.eval a) es := by
  induction es with
  | nil => rfl
  | cons e es ih => rw [List.flatMap_cons, value_append, value_operands, ih, value_cons]

lemma value_map {p q : Expr → Bool} {g : Expr → Expr} (h : ∀ e ∈ es, p (g e) = q e) :
    k.value p (es.map g) = k.value q es := by
  induction es with
  | nil => rfl
  | cons e es ih =>
    rw [List.map_cons, value_cons, value_cons, h e List.mem_cons_self,
      ih fun f hf => h f (List.mem_cons_of_mem e hf)]

/-- Flattening the operands of a connective keeps its truth value if it keeps theirs. -/
lemma eval_flatten_apply {a : Assignment} (h : ∀ e ∈ es, e.flatten.eval a = e.eval a) :
    (k.apply es).flatten.eval a = (k.apply es).eval a := by
  rw [flatten_apply, eval_apply, eval_apply, flatOperands_eq_flatMap, value_flatMap_operands,
    value_map k h]

end Connective

namespace Expr

/-- Flattening keeps the truth values. -/
theorem eval_flatten (a : Assignment) (e : Expr) : e.flatten.eval a = e.eval a := by
  induction e using inductionOn with
  | literal t => rw [flatten]
  | not e ih => rw [flatten, eval_not, eval_not, ih]
  | and es ih => exact Connective.and.eval_flatten_apply ih
  | or es ih => exact Connective.or.eval_flatten_apply ih

end Expr

/-! ## Joining flat operands -/

namespace Connective

open DocSearch.Query.Expr (Flat)

variable (k : Connective) {e : Expr} {es : List Expr}

lemma flat_apply_iff : (k.apply es).Flat ↔
    2 ≤ es.length ∧ (∀ e ∈ es, e.Flat) ∧ ∀ e ∈ es, ∀ fs, e ≠ k.apply fs := by
  constructor
  · intro h
    cases k with
    | and => cases h with | and hlen hflat hkind => exact ⟨hlen, hflat, hkind⟩
    | or => cases h with | or hlen hflat hkind => exact ⟨hlen, hflat, hkind⟩
  · rintro ⟨hlen, hflat, hkind⟩
    cases k with
    | and => exact .and hlen hflat hkind
    | or => exact .or hlen hflat hkind

/-- A flat expression contributes flat operands of another kind, at least one, and is the tree with
these operands. -/
lemma operands_of_flat (h : e.Flat) :
    k.operands e ≠ [] ∧ (∀ f ∈ k.operands e, f.Flat ∧ ∀ fs, f ≠ k.apply fs) ∧
      k.node (k.operands e) = e := by
  rcases Classical.em (∃ fs, e = k.apply fs) with ⟨fs, rfl⟩ | hkind
  · obtain ⟨hlen, hflat, hkind⟩ := (flat_apply_iff k).1 h
    rw [operands_apply]
    refine ⟨?_, fun f hf => ⟨hflat f hf, hkind f hf⟩, node_of_length k hlen⟩
    rintro rfl
    exact absurd hlen (by decide)
  · have hother : ∀ fs, e ≠ k.apply fs := fun fs heq => hkind ⟨fs, heq⟩
    rw [operands_of_ne_apply k hother]
    refine ⟨List.cons_ne_nil e [], fun f hf => ?_, rfl⟩
    obtain rfl := List.mem_singleton.1 hf
    exact ⟨h, hother⟩

/-- Several flat expressions contribute at least as many operands. -/
lemma length_le_length_flatMap_operands (h : ∀ e ∈ es, e.Flat) :
    es.length ≤ (es.flatMap k.operands).length := by
  induction es with
  | nil => exact Nat.le_refl _
  | cons e es ih =>
    obtain ⟨he, hes⟩ := List.forall_mem_cons.1 h
    have hpos := List.length_pos_iff.2 (operands_of_flat k he).1
    have htail := ih hes
    rw [List.flatMap_cons, List.length_append, List.length_cons]
    omega

/-- Joining flat operands gives a flat expression. -/
lemma flat_join (hne : es ≠ []) (h : ∀ e ∈ es, e.Flat) : (k.join es).Flat := by
  rw [join_eq_node]
  match es, hne with
  | [e], _ =>
    rw [List.flatMap_singleton, (operands_of_flat k (h e (List.mem_singleton.2 rfl))).2.2]
    exact h e (List.mem_singleton.2 rfl)
  | e :: f :: es, _ =>
    have hlen := length_le_length_flatMap_operands k h
    simp only [List.length_cons] at hlen
    have htwo : 2 ≤ ((e :: f :: es).flatMap k.operands).length := by omega
    have hmem : ∀ g ∈ (e :: f :: es).flatMap k.operands, g.Flat ∧ ∀ fs, g ≠ k.apply fs := by
      intro g hg
      obtain ⟨c, hc, hgc⟩ := List.mem_flatMap.1 hg
      exact (operands_of_flat k (h c hc)).2.1 g hgc
    rw [node_of_length k htwo]
    exact (flat_apply_iff k).2 ⟨htwo, fun g hg => (hmem g hg).1, fun g hg => (hmem g hg).2⟩

/-- Joining operands that are flattened already flattens the tree with these operands. -/
lemma flatten_node (hne : es ≠ []) (h : ∀ e ∈ es, e.flatten.Flat) :
    (k.node es).flatten = k.join (es.map Expr.flatten) := by
  have hflat : ∀ e ∈ es.map Expr.flatten, e.Flat := by
    intro f hf
    obtain ⟨e, he, rfl⟩ := List.mem_map.1 hf
    exact h e he
  rw [join_eq_node]
  match es, hne with
  | [e], _ =>
    rw [List.map_singleton, List.flatMap_singleton,
      (operands_of_flat k (h e (List.mem_singleton.2 rfl))).2.2]
    rfl
  | e :: f :: es, _ =>
    have hlen := length_le_length_flatMap_operands k hflat
    simp only [List.length_map, List.length_cons] at hlen
    rw [node_cons_cons, flatten_apply, flatOperands_eq_flatMap, node_of_length k (by omega)]

end Connective

end DocSearch.Query
