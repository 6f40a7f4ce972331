import DocSearch.Query.Expansion
import DocSearch.Proofs.Query.Conjunction

/-!
# What an expansion means

The conjunctions that an expression expands to are, taken together, held by the same consistent
valuations as the expression (`any_heldBy_expand`). Consistency is needed because a product drops
the conjunctions that contradict themselves; a valuation that grants a token and its negation could
hold one of these.

The statement is proved for both signs at once, since a negated conjunction expands like a
disjunction. The two loops over the operands carry the conjunctions found so far, so each of them is
described for any conjunctions to start with.
-/

namespace DocSearch.Query

/-! ## The steps of the loops -/

lemma checkSize_eq_ok_iff {n : Nat} {u : Unit} : checkSize n = .ok u ↔ n ≤ maxConjunctions := by
  rw [checkSize]
  split <;> simp only [reduceCtorEq, true_iff, false_iff] <;> omega

/-- All that a step of `expandUnion` does when it succeeds. -/
lemma expandUnion_cons_eq_ok_iff {negated : Bool} {acc cs : List Conjunction} {e : Expr}
    {es : List Expr} :
    expandUnion negated acc (e :: es) = .ok cs ↔
      ∃ ds, expand negated e = .ok ds ∧ acc.length + ds.length ≤ maxConjunctions ∧
        expandUnion negated (acc ++ ds) es = .ok cs := by
  rw [expandUnion]
  simp only [bind_eq_ok_iff, checkSize_eq_ok_iff, exists_and_left, exists_const]

/-- All that a step of `expandProduct` does when it succeeds. -/
lemma expandProduct_cons_eq_ok_iff {negated : Bool} {acc cs : List Conjunction} {e : Expr}
    {es : List Expr} :
    expandProduct negated acc (e :: es) = .ok cs ↔
      ∃ ds, expand negated e = .ok ds ∧ acc.length * ds.length ≤ maxConjunctions ∧
        (product acc ds).length ≤ maxConjunctions ∧
        expandProduct negated (product acc ds) es = .ok cs := by
  rw [expandProduct]
  simp only [bind_eq_ok_iff, checkSize_eq_ok_iff, exists_and_left, exists_const]

/-! ## Products -/

lemma mem_product {left right : List Conjunction} {c : Conjunction} :
    c ∈ product left right ↔ ∃ a ∈ left, ∃ b ∈ right,
      Conjunction.ofLiterals? (a.literals ++ b.literals) = some c := by
  rw [product, mem_ascending]
  simp only [List.mem_flatMap, List.mem_filterMap]

/-- A product is held where both of its factors are. -/
lemma any_heldBy_product {v : Valuation} (hv : v.Consistent) (left right : List Conjunction) :
    (product left right).any (·.heldBy v) =
      (left.any (·.heldBy v) && right.any (·.heldBy v)) := by
  rw [Bool.eq_iff_iff, Bool.and_eq_true, List.any_eq_true, List.any_eq_true, List.any_eq_true]
  constructor
  · rintro ⟨c, hc, hheld⟩
    obtain ⟨a, ha, b, hb, hab⟩ := mem_product.1 hc
    obtain ⟨-, hmem⟩ := Conjunction.ofLiterals?_eq_some_iff.1 hab
    have hall : ∀ l ∈ a.literals ++ b.literals, v l = true := fun l hl =>
      Conjunction.heldBy_iff.1 hheld l ((hmem l).2 hl)
    obtain ⟨hleft, hright⟩ := List.forall_mem_append.1 hall
    exact ⟨⟨a, ha, Conjunction.heldBy_iff.2 hleft⟩, ⟨b, hb, Conjunction.heldBy_iff.2 hright⟩⟩
  · rintro ⟨⟨a, ha, hleft⟩, ⟨b, hb, hright⟩⟩
    have hheld : Conjunction.heldBy v ⟨a.literals ++ b.literals⟩ = true :=
      Conjunction.heldBy_iff.2 (List.forall_mem_append.2
        ⟨Conjunction.heldBy_iff.1 hleft, Conjunction.heldBy_iff.1 hright⟩)
    -- the joined literals are granted together, so the product does not drop them
    obtain ⟨c, hc⟩ := Conjunction.exists_ofLiterals? (Conjunction.consistent_of_heldBy hv hheld)
    obtain ⟨-, hmem⟩ := Conjunction.ofLiterals?_eq_some_iff.1 hc
    refine ⟨c, mem_product.2 ⟨a, ha, b, hb, hc⟩, Conjunction.heldBy_iff.2 ?_⟩
    intro l hl
    exact Conjunction.heldBy_iff.1 hheld l ((hmem l).1 hl)

/-! ## Loops and expressions -/

section Meaning

variable {v : Valuation} {negated : Bool}

lemma any_heldBy_expandUnion {es : List Expr}
    (hes : ∀ e ∈ es, ∀ cs, expand negated e = .ok cs →
      cs.any (·.heldBy v) = e.heldBy v negated) {acc cs : List Conjunction}
    (h : expandUnion negated acc es = .ok cs) :
    cs.any (·.heldBy v) = (acc.any (·.heldBy v) || es.any (Expr.heldBy v negated)) := by
  induction es generalizing acc with
  | nil =>
    rw [expandUnion] at h
    obtain rfl := Except.ok.inj h
    rw [List.any_nil, Bool.or_false]
  | cons e es ih =>
    obtain ⟨ds, hds, -, hrest⟩ := expandUnion_cons_eq_ok_iff.1 h
    rw [ih (fun f hf => hes f (List.mem_cons_of_mem e hf)) hrest, List.any_append,
      hes e List.mem_cons_self ds hds, List.any_cons, Bool.or_assoc]

lemma any_heldBy_expandProduct (hv : v.Consistent) {es : List Expr}
    (hes : ∀ e ∈ es, ∀ cs, expand negated e = .ok cs →
      cs.any (·.heldBy v) = e.heldBy v negated) {acc cs : List Conjunction}
    (h : expandProduct negated acc es = .ok cs) :
    cs.any (·.heldBy v) = (acc.any (·.heldBy v) && es.all (Expr.heldBy v negated)) := by
  induction es generalizing acc with
  | nil =>
    rw [expandProduct] at h
    obtain rfl := Except.ok.inj h
    rw [List.all_nil, Bool.and_true]
  | cons e es ih =>
    obtain ⟨ds, hds, -, -, hrest⟩ := expandProduct_cons_eq_ok_iff.1 h
    rw [ih (fun f hf => hes f (List.mem_cons_of_mem e hf)) hrest, any_heldBy_product hv,
      hes e List.mem_cons_self ds hds, List.all_cons, Bool.and_assoc]

end Meaning

/-- The expansion of an expression is held by the same consistent valuations as the expression. -/
theorem any_heldBy_expand {v : Valuation} (hv : v.Consistent) (e : Expr) :
    ∀ {negated : Bool} {cs : List Conjunction}, expand negated e = .ok cs →
      cs.any (·.heldBy v) = e.heldBy v negated := by
  induction e using Expr.inductionOn with
  | literal t =>
    intro negated cs h
    rw [expand] at h
    obtain rfl := Except.ok.inj h
    simp [Conjunction.heldBy]
  | not e ih =>
    intro negated cs h
    rw [expand] at h
    rw [ih h, Expr.heldBy_not]
  | and es ih =>
    rintro (_ | _) cs h
    · rw [expand, if_neg Bool.false_ne_true] at h
      rw [any_heldBy_expandProduct hv (fun e he cs => ih e he) h, Expr.heldBy_and]
      simp [Conjunction.heldBy]
    · -- under a negation a conjunction is expanded like a disjunction
      rw [expand, if_pos rfl] at h
      rw [any_heldBy_expandUnion (fun e he cs => ih e he) h, Expr.heldBy_and_negated]
      rfl
  | or es ih =>
    rintro (_ | _) cs h
    · rw [expand, if_neg Bool.false_ne_true] at h
      rw [any_heldBy_expandUnion (fun e he cs => ih e he) h, Expr.heldBy_or]
      rfl
    · rw [expand, if_pos rfl] at h
      rw [any_heldBy_expandProduct hv (fun e he cs => ih e he) h, Expr.heldBy_or_negated]
      simp [Conjunction.heldBy]

/-- The expansion of an expression is true under the same assignments as the expression. -/
theorem any_eval_expand {e : Expr} {cs : List Conjunction} (h : expand false e = .ok cs)
    (a : Assignment) : cs.any (·.eval a) = e.eval a := by
  have hheld := any_heldBy_expand (Valuation.consistent_ofAssignment a) e h
  simp only [Conjunction.heldBy_ofAssignment, Expr.heldBy_ofAssignment, Bool.bne_false] at hheld
  exact hheld

end DocSearch.Query
