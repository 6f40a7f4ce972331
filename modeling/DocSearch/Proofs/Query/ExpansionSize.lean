import Mathlib.Algebra.Group.Action.Defs
import Mathlib.Algebra.Order.BigOperators.Group.List
import Mathlib.Algebra.Order.Ring.Nat
import DocSearch.Proofs.Query.Expansion

/-!
# The size of expansions

An expansion has at most `maxConjunctions` conjunctions, or it fails because it would have more
(`capped_expand`). Forming a product takes as many steps as there are pairs of conjunctions in its
factors, so the cap has to hold for these pairs and not only for what is left of them. To say so,
the expansion is repeated with a record of the factors of all products that are formed
(`traceExpand`). The record changes nothing about the outcome, and no product in it is oversized
(`traces_expand`).

The cap does not reject what is small. If the conjunctions are counted as if none of them were
merged or dropped (`Expr.naiveSize`), an expression whose count is within the cap is expanded
(`exists_expand_of_naiveSize_le`). What is formed on the way is then within the cap as well, since
the operands that are still to come can only add to the count: none of them counts for nothing.
-/

namespace DocSearch.Query

/-! ## Counting conjunctions -/

namespace Expr

mutual

/-- The number of conjunctions that an expression or, if `negated`, its negation expands to, if none
of them is merged or dropped. -/
def naiveSize (negated : Bool) : Expr → Nat
  | .literal _ => 1
  | .not e => naiveSize (!negated) e
  | .and es => if negated then naiveSum negated es else naiveProduct negated es
  | .or es => if negated then naiveProduct negated es else naiveSum negated es

/-- The sum of the numbers of the operands. -/
def naiveSum (negated : Bool) : List Expr → Nat
  | [] => 0
  | e :: es => naiveSize negated e + naiveSum negated es

/-- The product of the numbers of the operands. -/
def naiveProduct (negated : Bool) : List Expr → Nat
  | [] => 1
  | e :: es => naiveSize negated e * naiveProduct negated es

end

section NaiveSize

variable {negated : Bool} {es : List Expr}

lemma naiveSum_cons (e : Expr) :
    naiveSum negated (e :: es) = e.naiveSize negated + naiveSum negated es := rfl

lemma naiveProduct_cons (e : Expr) :
    naiveProduct negated (e :: es) = e.naiveSize negated * naiveProduct negated es := rfl

lemma naiveSum_pos (hne : es ≠ []) (hes : ∀ e ∈ es, 0 < e.naiveSize negated) :
    0 < naiveSum negated es := by
  obtain ⟨e, es, rfl⟩ := List.exists_cons_of_ne_nil hne
  have he := hes e List.mem_cons_self
  rw [naiveSum_cons]
  omega

lemma naiveProduct_pos (hes : ∀ e ∈ es, 0 < e.naiveSize negated) :
    0 < naiveProduct negated es := by
  induction es with
  | nil => exact Nat.one_pos
  | cons e es ih =>
    obtain ⟨he, hes⟩ := List.forall_mem_cons.1 hes
    rw [naiveProduct_cons]
    exact Nat.mul_pos he (ih hes)

/-- A proper expression counts for something, and so does its negation. -/
lemma Proper.naiveSize_pos {e : Expr} (h : e.Proper) : ∀ negated, 0 < e.naiveSize negated := by
  induction h with
  | literal t => exact fun _ => Nat.one_pos
  | not _ ih => exact fun negated => ih (!negated)
  | and hne _ ih =>
    rintro (_ | _)
    · exact naiveProduct_pos fun e he => ih e he false
    · exact naiveSum_pos hne fun e he => ih e he true
  | or hne _ ih =>
    rintro (_ | _)
    · exact naiveSum_pos hne fun e he => ih e he false
    · exact naiveProduct_pos fun e he => ih e he true

end NaiveSize

end Expr

open DocSearch.Query.Expr (naiveSum naiveProduct)

/-! ## The cap -/

/-- There are no more conjunctions than are allowed, or there would be more. -/
inductive Capped : Except QueryError (List Conjunction) → Prop
  | ok {cs : List Conjunction} : cs.length ≤ maxConjunctions → Capped (.ok cs)
  | tooMany : Capped (.error .tooManyConjunctions)

section Capped

variable {x : Except QueryError (List Conjunction)} {acc : List Conjunction} {es : List Expr}
  {negated : Bool}

lemma Capped.bind (hx : Capped x) {f : List Conjunction → Except QueryError (List Conjunction)}
    (hf : ∀ cs, Capped (f cs)) : Capped (x >>= f) := by
  cases hx with
  | ok _ => exact hf _
  | tooMany => exact .tooMany

lemma Capped.checkSize {n : Nat} (hx : n ≤ maxConjunctions → Capped x) :
    Capped (checkSize n >>= fun _ => x) := by
  by_cases hn : n ≤ maxConjunctions
  · have hok : Query.checkSize n = .ok () := checkSize_eq_ok_iff.2 hn
    rw [hok]
    exact hx hn
  · rw [Query.checkSize, if_pos (Nat.lt_of_not_le hn)]
    exact .tooMany

lemma capped_expandUnion (hes : ∀ e ∈ es, Capped (expand negated e))
    (hacc : acc.length ≤ maxConjunctions) : Capped (expandUnion negated acc es) := by
  induction es generalizing acc with
  | nil => exact .ok hacc
  | cons e es ih =>
    obtain ⟨he, hes⟩ := List.forall_mem_cons.1 hes
    rw [expandUnion]
    refine he.bind fun cs => .checkSize fun hsize => ih hes ?_
    rwa [List.length_append]

lemma capped_expandProduct (hes : ∀ e ∈ es, Capped (expand negated e))
    (hacc : acc.length ≤ maxConjunctions) : Capped (expandProduct negated acc es) := by
  induction es generalizing acc with
  | nil => exact .ok hacc
  | cons e es ih =>
    obtain ⟨he, hes⟩ := List.forall_mem_cons.1 hes
    rw [expandProduct]
    exact he.bind fun cs => .checkSize fun _ => .checkSize fun hsize => ih hes hsize

/-- Every expansion is capped. -/
theorem capped_expand (e : Expr) : ∀ negated, Capped (expand negated e) := by
  have hone : [(⟨[]⟩ : Conjunction)].length ≤ maxConjunctions := by decide
  have hnone : ([] : List Conjunction).length ≤ maxConjunctions := Nat.zero_le _
  induction e using Expr.inductionOn with
  | literal t =>
    intro negated
    rw [expand]
    exact .ok hone
  | not e ih =>
    intro negated
    rw [expand]
    exact ih (!negated)
  | and es ih =>
    rintro (_ | _)
    · exact capped_expandProduct (fun e he => ih e he false) hone
    · exact capped_expandUnion (fun e he => ih e he true) hnone
  | or es ih =>
    rintro (_ | _)
    · exact capped_expandUnion (fun e he => ih e he false) hnone
    · exact capped_expandProduct (fun e he => ih e he true) hone

lemma length_le_of_expand {e : Expr} {cs : List Conjunction} (h : expand negated e = .ok cs) :
    cs.length ≤ maxConjunctions := by
  have hcapped := capped_expand e negated
  rw [h] at hcapped
  cases hcapped with
  | ok hle => exact hle

end Capped

/-! ### Products -/

lemma length_product_le (left right : List Conjunction) :
    (product left right).length ≤ left.length * right.length := by
  refine (length_ascending_le _).trans ?_
  rw [List.length_flatMap]
  have hrow : ∀ n ∈ left.map (fun c => (right.filterMap fun d =>
      Conjunction.ofLiterals? (c.literals ++ d.literals)).length), n ≤ right.length := by
    intro n hn
    obtain ⟨c, -, rfl⟩ := List.mem_map.1 hn
    exact List.length_filterMap_le _ _
  have hsum := List.sum_le_card_nsmul _ _ hrow
  rwa [List.length_map, smul_eq_mul] at hsum

/-! ## Expressions that are expanded -/

section Small

variable {negated : Bool} {es : List Expr}

/-- The operand is expanded if its count is within the cap, to no more than its count. -/
def ExpandsWithin (negated : Bool) (e : Expr) : Prop :=
  e.naiveSize negated ≤ maxConjunctions →
    ∃ cs, expand negated e = .ok cs ∧ cs.length ≤ e.naiveSize negated

lemma exists_expandUnion (acc : List Conjunction) (hes : ∀ e ∈ es, ExpandsWithin negated e)
    (hsize : acc.length + naiveSum negated es ≤ maxConjunctions) :
    ∃ cs, expandUnion negated acc es = .ok cs ∧
      cs.length ≤ acc.length + naiveSum negated es := by
  induction es generalizing acc with
  | nil => exact ⟨acc, by rw [expandUnion], Nat.le_add_right _ _⟩
  | cons e es ih =>
    obtain ⟨he, hes⟩ := List.forall_mem_cons.1 hes
    rw [Expr.naiveSum_cons] at hsize ⊢
    obtain ⟨ds, hds, hlen⟩ := he (by omega)
    have hnext : (acc ++ ds).length ≤ acc.length + e.naiveSize negated := by
      rw [List.length_append]
      omega
    obtain ⟨cs, hcs, hle⟩ := ih (acc ++ ds) hes (by omega)
    refine ⟨cs, expandUnion_cons_eq_ok_iff.2 ⟨ds, hds, by omega, hcs⟩, by omega⟩

/-- The conjunctions found so far may have become fewer than the count `n` of the operands before,
even none at all; it is the count that bounds the operands to come. -/
lemma exists_expandProduct (acc : List Conjunction)
    (hes : ∀ e ∈ es, ExpandsWithin negated e) (hpos : ∀ e ∈ es, 0 < e.naiveSize negated) {n : Nat}
    (hn : 0 < n) (hacc : acc.length ≤ n)
    (hsize : n * naiveProduct negated es ≤ maxConjunctions) :
    ∃ cs, expandProduct negated acc es = .ok cs ∧ cs.length ≤ n * naiveProduct negated es := by
  induction es generalizing acc n with
  | nil => exact ⟨acc, by rw [expandProduct], by simpa [naiveProduct] using hacc⟩
  | cons e es ih =>
    obtain ⟨he, hes⟩ := List.forall_mem_cons.1 hes
    obtain ⟨hepos, hpos⟩ := List.forall_mem_cons.1 hpos
    rw [Expr.naiveProduct_cons, ← Nat.mul_assoc] at hsize ⊢
    have hrest : 0 < naiveProduct negated es := Expr.naiveProduct_pos hpos
    have hfirst : n * e.naiveSize negated ≤ maxConjunctions :=
      (Nat.le_mul_of_pos_right _ hrest).trans hsize
    obtain ⟨ds, hds, hlen⟩ := he ((Nat.le_mul_of_pos_left _ hn).trans hfirst)
    have hpairs : acc.length * ds.length ≤ n * e.naiveSize negated := Nat.mul_le_mul hacc hlen
    have hnext : (product acc ds).length ≤ n * e.naiveSize negated :=
      (length_product_le acc ds).trans hpairs
    obtain ⟨cs, hcs, hle⟩ := ih (product acc ds) hes hpos (Nat.mul_pos hn hepos) hnext hsize
    exact ⟨cs, expandProduct_cons_eq_ok_iff.2
      ⟨ds, hds, hpairs.trans hfirst, hnext.trans hfirst, hcs⟩, hle⟩

lemma exists_union (hes : ∀ e ∈ es, ExpandsWithin negated e)
    (hsize : naiveSum negated es ≤ maxConjunctions) :
    ∃ cs, expandUnion negated [] es = .ok cs ∧ cs.length ≤ naiveSum negated es := by
  have h := exists_expandUnion [] hes (by rwa [List.length_nil, Nat.zero_add])
  rwa [List.length_nil, Nat.zero_add] at h

lemma exists_product (hes : ∀ e ∈ es, ExpandsWithin negated e) (hproper : ∀ e ∈ es, e.Proper)
    (hsize : naiveProduct negated es ≤ maxConjunctions) :
    ∃ cs, expandProduct negated [⟨[]⟩] es = .ok cs ∧ cs.length ≤ naiveProduct negated es := by
  have hpos := fun e he => (hproper e he).naiveSize_pos negated
  have h := exists_expandProduct [⟨[]⟩] hes hpos Nat.one_pos (Nat.le_refl 1) (by rwa [Nat.one_mul])
  rwa [Nat.one_mul] at h

/-- An expression is expanded if its count is within the cap. -/
theorem exists_expand_of_naiveSize_le {e : Expr} (h : e.Proper) :
    ∀ negated, ExpandsWithin negated e := by
  induction h with
  | literal t =>
    intro negated _
    exact ⟨_, by rw [expand], Nat.le_refl _⟩
  | not _ ih =>
    intro negated hsize
    rw [expand]
    exact ih (!negated) hsize
  | and _ hes ih =>
    rintro (_ | _) hsize
    · exact exists_product (fun e he => ih e he false) hes hsize
    · exact exists_union (fun e he => ih e he true) hsize
  | or _ hes ih =>
    rintro (_ | _) hsize
    · exact exists_union (fun e he => ih e he false) hsize
    · exact exists_product (fun e he => ih e he true) hes hsize

end Small

/-! ## The products that are formed -/

/-- What a computation comes to, with the products that it forms on the way. -/
structure Traced (α : Type) where
  /-- The numbers of conjunctions of the two factors, for each product in order. -/
  factors : List (Nat × Nat)
  /-- The outcome. -/
  outcome : Except QueryError α

namespace Traced

instance : Monad Traced where
  pure a := ⟨[], .ok a⟩
  bind x f :=
    match x.outcome with
    | .error e => ⟨x.factors, .error e⟩
    | .ok a => ⟨x.factors ++ (f a).factors, (f a).outcome⟩

instance : MonadLift (Except QueryError) Traced where
  monadLift x := ⟨[], x⟩

/-- Forms the product of two lists of conjunctions. -/
def multiply (left right : List Conjunction) : Traced (List Conjunction) :=
  ⟨[(left.length, right.length)], .ok (product left right)⟩

end Traced

mutual

/-- `expand` with the products that it forms. -/
def traceExpand (negated : Bool) : Expr → Traced (List Conjunction)
  | .literal t => return [⟨[⟨t, negated⟩]⟩]
  | .not e => traceExpand (!negated) e
  | .and es => if negated then traceUnion negated [] es else traceProduct negated [⟨[]⟩] es
  | .or es => if negated then traceProduct negated [⟨[]⟩] es else traceUnion negated [] es

/-- `expandUnion` with the products that it forms. -/
def traceUnion (negated : Bool) (acc : List Conjunction) :
    List Expr → Traced (List Conjunction)
  | [] => return acc
  | e :: es => do
    let cs ← traceExpand negated e
    checkSize (acc.length + cs.length)
    traceUnion negated (acc ++ cs) es

/-- `expandProduct` with the products that it forms. -/
def traceProduct (negated : Bool) (acc : List Conjunction) :
    List Expr → Traced (List Conjunction)
  | [] => return acc
  | e :: es => do
    let cs ← traceExpand negated e
    checkSize (acc.length * cs.length)
    let next ← Traced.multiply acc cs
    checkSize next.length
    traceProduct negated next es

end

/-- The traced computation comes to `y` and forms no oversized product. -/
structure Traces {α : Type} (x : Traced α) (y : Except QueryError α) : Prop where
  outcome : x.outcome = y
  within : ∀ p ∈ x.factors, p.1 * p.2 ≤ maxConjunctions

section Traces

variable {α β : Type} {x : Traced α} {y : Except QueryError α}

lemma Traces.of_factors_nil (y : Except QueryError α) : Traces ⟨[], y⟩ y where
  outcome := rfl
  within := fun _ hp => absurd hp List.not_mem_nil

lemma Traces.bind (hx : Traces x y) {f : α → Traced β} {g : α → Except QueryError β}
    (hf : ∀ a, Traces (f a) (g a)) : Traces (x >>= f) (y >>= g) := by
  obtain ⟨factors, outcome⟩ := x
  obtain ⟨rfl, hwithin⟩ := hx
  cases outcome with
  | error e => exact ⟨rfl, hwithin⟩
  | ok a =>
    refine ⟨(hf a).outcome, fun p hp => ?_⟩
    rcases List.mem_append.1 hp with hp | hp
    · exact hwithin p hp
    · exact (hf a).within p hp

/-- Behind a check it may be used that the check has been passed. -/
lemma Traces.checkSize {n : Nat} (hx : n ≤ maxConjunctions → Traces x y) :
    Traces ((checkSize n : Traced Unit) >>= fun _ => x) (checkSize n >>= fun _ => y) := by
  cases hn : Query.checkSize n with
  | error e => exact .of_factors_nil _
  | ok u => exact hx (checkSize_eq_ok_iff.1 hn)

lemma Traces.multiply {left right : List Conjunction} {f : List Conjunction → Traced α}
    (h : left.length * right.length ≤ maxConjunctions) (hf : Traces (f (product left right)) y) :
    Traces (Traced.multiply left right >>= f) y := by
  refine ⟨hf.outcome, fun p hp => ?_⟩
  rcases List.mem_cons.1 hp with rfl | hp
  · exact h
  · exact hf.within p hp

variable {negated : Bool} {acc : List Conjunction} {es : List Expr}

lemma traces_expandUnion (hes : ∀ e ∈ es, Traces (traceExpand negated e) (expand negated e)) :
    Traces (traceUnion negated acc es) (expandUnion negated acc es) := by
  induction es generalizing acc with
  | nil => exact .of_factors_nil _
  | cons e es ih =>
    obtain ⟨he, hes⟩ := List.forall_mem_cons.1 hes
    rw [traceUnion, expandUnion]
    exact he.bind fun cs => .checkSize fun _ => ih hes

lemma traces_expandProduct (hes : ∀ e ∈ es, Traces (traceExpand negated e) (expand negated e)) :
    Traces (traceProduct negated acc es) (expandProduct negated acc es) := by
  induction es generalizing acc with
  | nil => exact .of_factors_nil _
  | cons e es ih =>
    obtain ⟨he, hes⟩ := List.forall_mem_cons.1 hes
    rw [traceProduct, expandProduct]
    exact he.bind fun cs => .checkSize fun hpairs =>
      .multiply hpairs (.checkSize fun _ => ih hes)

/-- The record leaves the expansion as it is, and no oversized product is in it, whether the
expansion succeeds or not. -/
theorem traces_expand (e : Expr) :
    ∀ negated, Traces (traceExpand negated e) (expand negated e) := by
  induction e using Expr.inductionOn with
  | literal t => exact fun _ => .of_factors_nil _
  | not e ih => exact fun negated => ih (!negated)
  | and es ih =>
    rintro (_ | _)
    · exact traces_expandProduct fun e he => ih e he false
    · exact traces_expandUnion fun e he => ih e he true
  | or es ih =>
    rintro (_ | _)
    · exact traces_expandUnion fun e he => ih e he false
    · exact traces_expandProduct fun e he => ih e he true

end Traces

/-! ## The cap on expansions -/

/-- **Expansions are capped, and nothing small is rejected.** The expansion of a proper expression
or of its negation

* has at most `maxConjunctions` conjunctions or fails because there would be more,
* forms no product with more pairs of conjunctions than that, as the record of its products shows,
  which is one of the very same expansion,
* succeeds if the naive number of its conjunctions is within the cap. -/
theorem expand_capped {e : Expr} (h : e.Proper) (negated : Bool) :
    (expand negated e = .error .tooManyConjunctions ∨
        ∃ cs, expand negated e = .ok cs ∧ cs.length ≤ maxConjunctions) ∧
      (traceExpand negated e).outcome = expand negated e ∧
      (∀ p ∈ (traceExpand negated e).factors, p.1 * p.2 ≤ maxConjunctions) ∧
      (e.naiveSize negated ≤ maxConjunctions → ∃ cs, expand negated e = .ok cs) := by
  obtain ⟨houtcome, hwithin⟩ := traces_expand e negated
  refine ⟨?_, houtcome, hwithin, fun hsize => ?_⟩
  · have hcapped := capped_expand e negated
    cases hx : expand negated e with
    | error x =>
      rw [hx] at hcapped
      cases hcapped
      exact Or.inl rfl
    | ok cs => exact Or.inr ⟨cs, rfl, length_le_of_expand hx⟩
  · obtain ⟨cs, hcs, -⟩ := exists_expand_of_naiveSize_le h negated hsize
    exact ⟨cs, hcs⟩

/-- A conjunction of two disjunctions, the second of them under a negation. -/
def twoDisjunctions : Expr :=
  .and [.or [.literal "1", .literal "2"], .not (.and [.literal "1", .literal "3"])]

lemma proper_twoDisjunctions : twoDisjunctions.Proper := by
  have hliterals : ∀ s t, ∀ e ∈ [Expr.literal s, .literal t], e.Proper := by
    intro s t e he
    rcases List.mem_pair.1 he with rfl | rfl
    · exact .literal s
    · exact .literal t
  refine .and (List.cons_ne_nil _ _) fun e he => ?_
  rcases List.mem_pair.1 he with rfl | rfl
  · exact .or (List.cons_ne_nil _ _) (hliterals "1" "2")
  · exact .not (.and (List.cons_ne_nil _ _) (hliterals "1" "3"))

theorem two_disjunctions_capped :
    twoDisjunctions.Proper ∧ twoDisjunctions.naiveSize false = 4 ∧
      (traceExpand false twoDisjunctions).factors = [(1, 2), (2, 2)] ∧
      (∀ p ∈ [(1, 2), (2, 2)], p.1 * p.2 ≤ maxConjunctions) ∧
      ∃ cs, expand false twoDisjunctions = .ok cs := by
  have hsize : twoDisjunctions.naiveSize false = 4 := by decide
  have hfits : twoDisjunctions.naiveSize false ≤ maxConjunctions := by rw [hsize]; decide
  have hfactors : (traceExpand false twoDisjunctions).factors = [(1, 2), (2, 2)] := by cbv
  obtain ⟨-, -, hwithin, hexpand⟩ := expand_capped proper_twoDisjunctions false
  rw [hfactors] at hwithin
  exact ⟨proper_twoDisjunctions, hsize, hfactors, hwithin, hexpand hfits⟩

end DocSearch.Query
