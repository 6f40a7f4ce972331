import DocSearch.Proofs.Query.Canonical
import DocSearch.Proofs.Query.Flattening

/-!
# Spelling out normal forms

A list of conjunctions can be written down as an expression again: a disjunction of conjunctions of
literals (`Expr.ofConjunctions`). If the conjunctions are normal and not too many, they are what
this expression expands to, literally and in their order (`expand_ofConjunctions`). What a query
compiles to is therefore a fixed point: spelled out, expanded and simplified it comes back unchanged
(`Compiler.fixed_point_of_compile`).

Nothing happens in the expansion because each of its steps finds its work done. A product appends a
literal to the literals before it, where it belongs in the order and contradicts none of them. The
simplification does not have to be followed step by step: the conjunctions are held by the same
valuations as those of the first expansion, and nothing else matters to it.
-/

namespace DocSearch.Query

/-! ## Expressions of literals and conjunctions -/

/-- The literal as an expression. -/
def Literal.toExpr (l : Literal) : Expr :=
  if l.negated then .not (.literal l.token) else .literal l.token

/-- The conjunction of the literals; a single literal stays as it is. -/
def Conjunction.toExpr (c : Conjunction) : Expr :=
  Connective.and.node (c.literals.map Literal.toExpr)

/-- The disjunction of the conjunctions; a single conjunction stays as it is. -/
def Expr.ofConjunctions (cs : List Conjunction) : Expr :=
  Connective.or.node (cs.map Conjunction.toExpr)

lemma Literal.expand_toExpr (l : Literal) : expand false l.toExpr = .ok [⟨[l]⟩] := by
  obtain ⟨t, negated⟩ := l
  cases negated
  · show expand false (.literal t) = _
    rw [expand]
  · show expand false (.not (.literal t)) = _
    rw [expand, expand]
    rfl

/-! ## Conjunctions of literals -/

namespace Conjunction

variable {before behind : List Literal} {l : Literal}

/-- The literals in front are normal by themselves. -/
lemma Normal.of_append (h : Normal ⟨before ++ behind⟩) : Normal ⟨before⟩ where
  ascends := (List.pairwise_append.1 h.ascends).1
  consistent := fun t ⟨hf, ht⟩ =>
    h.consistent t ⟨List.mem_append_left _ hf, List.mem_append_left _ ht⟩

/-- The product with a literal that comes behind all others is formed by appending it. -/
lemma Normal.product_literal (h : Normal ⟨before ++ [l]⟩) :
    product [⟨before⟩] [⟨[l]⟩] = [⟨before ++ [l]⟩] := by
  have hjoined : ofLiterals? (before ++ [l]) = some ⟨before ++ [l]⟩ :=
    ofLiterals?_eq_some_iff.2 ⟨h, fun _ => Iff.rfl⟩
  have hpairs : [(⟨[l]⟩ : Conjunction)].filterMap (fun d => ofLiterals? (before ++ d.literals)) =
      [⟨before ++ [l]⟩] := List.filterMap_cons_some hjoined
  rw [product, List.flatMap_singleton, hpairs, ascending, List.mergeSort_singleton, dropRepeats]

/-- The loop over literals keeps one conjunction, to which it appends them one after the other. -/
lemma Normal.expandProduct_literals (h : Normal ⟨before ++ behind⟩) :
    expandProduct false [⟨before⟩] (behind.map Literal.toExpr) = .ok [⟨before ++ behind⟩] := by
  induction behind generalizing before with
  | nil => rw [List.map_nil, expandProduct, List.append_nil]
  | cons l behind ih =>
    rw [List.append_cons] at h ⊢
    have hproduct := h.of_append.product_literal
    rw [List.map_cons, expandProduct_cons_eq_ok_iff]
    -- the loop holds a single conjunction all the time, which is within any cap
    have hone : 1 ≤ maxConjunctions := by decide
    refine ⟨[⟨[l]⟩], l.expand_toExpr, hone, ?_, ?_⟩
    · rw [hproduct]
      exact hone
    · rw [hproduct]
      exact ih h

lemma Normal.expand_toExpr {c : Conjunction} (h : c.Normal) : expand false c.toExpr = .ok [c] := by
  obtain ⟨ls⟩ := c
  match ls with
  | [] =>
    show expand false (.and []) = _
    rw [expand, if_neg Bool.false_ne_true, expandProduct]
  | [l] => exact l.expand_toExpr
  | l :: m :: ls =>
    show expand false (.and ((l :: m :: ls).map Literal.toExpr)) = _
    rw [expand, if_neg Bool.false_ne_true]
    exact Normal.expandProduct_literals h

end Conjunction

/-! ## Disjunctions of conjunctions -/

section Disjunction

variable {acc cs : List Conjunction}

/-- The loop over conjunctions appends them one after the other. -/
lemma expandUnion_conjunctions (hcs : ∀ c ∈ cs, c.Normal)
    (hlength : acc.length + cs.length ≤ maxConjunctions) :
    expandUnion false acc (cs.map Conjunction.toExpr) = .ok (acc ++ cs) := by
  induction cs generalizing acc with
  | nil => rw [List.map_nil, expandUnion, List.append_nil]
  | cons c cs ih =>
    obtain ⟨hc, hcs⟩ := List.forall_mem_cons.1 hcs
    rw [List.length_cons] at hlength
    have hnext : (acc ++ [c]).length = acc.length + 1 := by
      rw [List.length_append, List.length_singleton]
    rw [List.map_cons, expandUnion_cons_eq_ok_iff]
    refine ⟨[c], hc.expand_toExpr, ?_, ?_⟩
    · rw [List.length_singleton]
      omega
    · rw [ih hcs (by omega), List.append_assoc, List.singleton_append]

/-- Normal conjunctions, not too many of them, are what they expand to when they are spelled out. -/
theorem expand_ofConjunctions (hcs : ∀ c ∈ cs, c.Normal) (hlength : cs.length ≤ maxConjunctions) :
    expand false (.ofConjunctions cs) = .ok cs := by
  match cs with
  | [] =>
    show expand false (.or []) = _
    rw [expand, if_neg Bool.false_ne_true, expandUnion]
  | [c] => exact (hcs c List.mem_cons_self).expand_toExpr
  | c :: d :: cs =>
    show expand false (.or ((c :: d :: cs).map Conjunction.toExpr)) = _
    rw [expand, if_neg Bool.false_ne_true]
    exact expandUnion_conjunctions hcs (by rwa [List.length_nil, Nat.zero_add])

end Disjunction

/-! ## Normal forms -/

section NormalForm

variable {cs ds : List Conjunction}

lemma normal_of_simplify (h : simplify cs = .clauses ds) : ∀ d ∈ ds, d.Normal := by
  obtain ⟨-, rfl⟩ := of_simplify_eq_clauses h
  intro d hd
  exact normal_of_mem_minimal (List.mem_mergeSort.1 hd)

lemma heldAlike_of_simplify (h : simplify cs = .clauses ds) : HeldAlike ds cs := by
  obtain ⟨-, rfl⟩ := of_simplify_eq_clauses h
  intro v hv
  rw [(List.mergeSort_perm (minimal cs) _).any_eq, any_heldBy_minimal hv]

/-- A normal form is not simplified any further. -/
theorem simplify_of_simplify (h : simplify cs = .clauses ds) : simplify ds = .clauses ds :=
  (simplify_congr (heldAlike_of_simplify h)).trans h

end NormalForm

namespace Compiler

variable {c : Compiler} {query : String} {cs : List Conjunction}

/-- **The compiled form is a fixed point.** If a query compiles to conjunctions, the expression that
spells them out expands to these conjunctions, which are not too many, and they are simplified to
themselves. -/
theorem fixed_point_of_compile (h : c.compile query = .ok (.clauses cs)) :
    expand false (.ofConjunctions cs) = .ok cs ∧ cs.length ≤ maxConjunctions ∧
      simplify cs = .clauses cs := by
  obtain ⟨e, ds, he, hexpand, hsimplify⟩ := exists_simplify_of_compile h
  have hlength : cs.length ≤ maxConjunctions :=
    (canonical_of_simplify he hexpand hsimplify).length_le
  have hnormal := normal_of_simplify hsimplify
  exact ⟨expand_ofConjunctions hnormal hlength, hlength, simplify_of_simplify hsimplify⟩

theorem two_digits_fixed_point :
    ({} : Compiler).compile "1 2" = .ok (.clauses [⟨[⟨"1", false⟩, ⟨"2", false⟩]⟩]) ∧
      Expr.ofConjunctions [⟨[⟨"1", false⟩, ⟨"2", false⟩]⟩] = .and [.literal "1", .literal "2"] ∧
      expand false (.and [.literal "1", .literal "2"]) =
        .ok [⟨[⟨"1", false⟩, ⟨"2", false⟩]⟩] ∧
      simplify [⟨[⟨"1", false⟩, ⟨"2", false⟩]⟩] =
        .clauses [⟨[⟨"1", false⟩, ⟨"2", false⟩]⟩] := by
  obtain ⟨hexpand, -, hsimplify⟩ := fixed_point_of_compile compile_two_digits
  exact ⟨compile_two_digits, rfl, hexpand, hsimplify⟩

end Compiler

end DocSearch.Query
