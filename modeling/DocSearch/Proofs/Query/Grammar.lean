import DocSearch.Query.Token
import DocSearch.Proofs.Query.Flattening

/-!
# The grammar of queries

The grammar is given by its derivations, which are trees of three kinds:

* a disjunction is one conjunction or several joined by `or`,
* a conjunction is one factor or several joined by `and`,
* a factor is `not` with a factor, a term, or a disjunction in parentheses.

A derivation has the tokens that it derives and the expression that it stands for. In the latter a
disjunction or conjunction has a node of its own only if it has several operands, and parentheses
leave no trace but nesting. The tokens determine the derivation (`Disjunction.eq_of_tokens_eq`),
since a conjunction goes on as long as `and` follows and a disjunction as long as `or` follows.
-/

namespace DocSearch.Query.Grammar

mutual

/-- A derivation of a disjunction. -/
inductive Disjunction where
  /-- A single conjunction. -/
  | one (c : Conjunction)
  /-- A conjunction, `or` and the rest of the disjunction. -/
  | more (c : Conjunction) (d : Disjunction)

/-- A derivation of a conjunction. -/
inductive Conjunction where
  /-- A single factor. -/
  | one (f : Factor)
  /-- A factor, `and` and the rest of the conjunction. -/
  | more (f : Factor) (c : Conjunction)

/-- A derivation of a factor. -/
inductive Factor where
  /-- `not` and a factor. -/
  | not (f : Factor)
  /-- A term. -/
  | term (t : String)
  /-- A disjunction in parentheses. -/
  | group (d : Disjunction)

end

mutual

/-- The tokens of a disjunction. -/
def Disjunction.tokens : Disjunction → List Token
  | .one c => c.tokens
  | .more c d => c.tokens ++ .or :: d.tokens

/-- The tokens of a conjunction. -/
def Conjunction.tokens : Conjunction → List Token
  | .one f => f.tokens
  | .more f c => f.tokens ++ .and :: c.tokens

/-- The tokens of a factor. -/
def Factor.tokens : Factor → List Token
  | .not f => .not :: f.tokens
  | .term t => [.term t]
  | .group d => .opening :: (d.tokens ++ [.closing])

end

mutual

/-- The trees of the conjunctions that a disjunction is made of. -/
def Disjunction.operands : Disjunction → List Expr
  | .one c => [Connective.and.node c.operands]
  | .more c d => Connective.and.node c.operands :: d.operands

/-- The trees of the factors that a conjunction is made of. -/
def Conjunction.operands : Conjunction → List Expr
  | .one f => [f.tree]
  | .more f c => f.tree :: c.operands

/-- The tree of a factor. -/
def Factor.tree : Factor → Expr
  | .not f => .not f.tree
  | .term t => .literal t
  | .group d => Connective.or.node d.operands

end

/-- The tree of a conjunction. -/
def Conjunction.tree (c : Conjunction) : Expr := Connective.and.node c.operands

/-- The tree of a disjunction. -/
def Disjunction.tree (d : Disjunction) : Expr := Connective.or.node d.operands

/-! ## Trees of derivations -/

lemma Disjunction.operands_ne_nil (d : Disjunction) : d.operands ≠ [] := by
  cases d <;> simp [Disjunction.operands]

lemma Conjunction.operands_ne_nil (c : Conjunction) : c.operands ≠ [] := by
  cases c <;> simp [Conjunction.operands]

/-- If the operands are flat after flattening, so is the tree that is made of them. -/
lemma flat_flatten_node (k : Connective) {es : List Expr} (hne : es ≠ [])
    (h : ∀ e ∈ es, e.flatten.Flat) : (k.node es).flatten.Flat := by
  rw [k.flatten_node hne h]
  refine k.flat_join (by simpa using hne) fun f hf => ?_
  obtain ⟨e, he, rfl⟩ := List.mem_map.1 hf
  exact h e he

mutual

lemma Disjunction.flat_operands : ∀ d : Disjunction, ∀ e ∈ d.operands, e.flatten.Flat
  | .one c => by
    rw [Disjunction.operands, List.forall_mem_singleton]
    exact flat_flatten_node .and c.operands_ne_nil c.flat_operands
  | .more c d => by
    rw [Disjunction.operands, List.forall_mem_cons]
    exact ⟨flat_flatten_node .and c.operands_ne_nil c.flat_operands, d.flat_operands⟩

lemma Conjunction.flat_operands : ∀ c : Conjunction, ∀ e ∈ c.operands, e.flatten.Flat
  | .one f => by
    rw [Conjunction.operands, List.forall_mem_singleton]
    exact f.flat_tree
  | .more f c => by
    rw [Conjunction.operands, List.forall_mem_cons]
    exact ⟨f.flat_tree, c.flat_operands⟩

lemma Factor.flat_tree : ∀ f : Factor, f.tree.flatten.Flat
  | .not f => by
    rw [Factor.tree, Expr.flatten]
    exact .not f.flat_tree
  | .term t => by
    rw [Factor.tree, Expr.flatten]
    exact .literal t
  | .group d => by
    rw [Factor.tree]
    exact flat_flatten_node .or d.operands_ne_nil d.flat_operands

end

/-- The flattened tree of a derivation is flat. -/
theorem Disjunction.flat_tree (d : Disjunction) : d.tree.flatten.Flat :=
  flat_flatten_node .or d.operands_ne_nil d.flat_operands

lemma Disjunction.flatten_tree (d : Disjunction) :
    d.tree.flatten = Expr.anyOf (d.operands.map Expr.flatten) :=
  Connective.or.flatten_node d.operands_ne_nil d.flat_operands

lemma Conjunction.flatten_tree (c : Conjunction) :
    c.tree.flatten = Expr.allOf (c.operands.map Expr.flatten) :=
  Connective.and.flatten_node c.operands_ne_nil c.flat_operands

/-! ## The tokens determine the derivation -/

/-- The tokens do not begin with the token `t`. -/
def StopsAt (t : Token) (ts : List Token) : Prop :=
  ∀ us, ts ≠ t :: us

lemma stopsAt_nil (t : Token) : StopsAt t [] := fun _ => (List.cons_ne_nil _ _).symm

lemma stopsAt_cons {t u : Token} (h : u ≠ t) (ts : List Token) : StopsAt t (u :: ts) :=
  fun _ heq => h (List.cons.inj heq).1

mutual

/-- A disjunction can be split off in one way only where neither `and` nor `or` follows. -/
lemma Disjunction.eq_of_append : ∀ (d d' : Disjunction) {r r' : List Token},
    StopsAt .and r → StopsAt .and r' → StopsAt .or r → StopsAt .or r' →
      d.tokens ++ r = d'.tokens ++ r' → d = d' ∧ r = r'
  | .one c, .one c', r, r', hr, hr', _, _, h => by
    simp only [Disjunction.tokens] at h
    obtain ⟨rfl, hrest⟩ := c.eq_of_append c' hr hr' h
    exact ⟨rfl, hrest⟩
  | .one c, .more c' d', r, r', hr, _, hor, _, h => by
    simp only [Disjunction.tokens, List.append_assoc, List.cons_append] at h
    obtain ⟨-, hrest⟩ := c.eq_of_append c' hr (stopsAt_cons (by decide) _) h
    exact absurd hrest (hor _)
  | .more c d, .one c', r, r', _, hr', _, hor', h => by
    simp only [Disjunction.tokens, List.append_assoc, List.cons_append] at h
    obtain ⟨-, hrest⟩ := c.eq_of_append c' (stopsAt_cons (by decide) _) hr' h
    exact absurd hrest.symm (hor' _)
  | .more c d, .more c' d', r, r', hr, hr', hor, hor', h => by
    simp only [Disjunction.tokens, List.append_assoc, List.cons_append] at h
    obtain ⟨rfl, hrest⟩ :=
      c.eq_of_append c' (stopsAt_cons (by decide) _) (stopsAt_cons (by decide) _) h
    obtain ⟨rfl, hend⟩ := d.eq_of_append d' hr hr' hor hor' (List.cons.inj hrest).2
    exact ⟨rfl, hend⟩

/-- A conjunction can be split off in one way only where no `and` follows. -/
lemma Conjunction.eq_of_append : ∀ (c c' : Conjunction) {r r' : List Token},
    StopsAt .and r → StopsAt .and r' → c.tokens ++ r = c'.tokens ++ r' → c = c' ∧ r = r'
  | .one f, .one f', r, r', _, _, h => by
    simp only [Conjunction.tokens] at h
    obtain ⟨rfl, hrest⟩ := f.eq_of_append f' h
    exact ⟨rfl, hrest⟩
  | .one f, .more f' c', r, r', hr, _, h => by
    simp only [Conjunction.tokens, List.append_assoc, List.cons_append] at h
    obtain ⟨-, hrest⟩ := f.eq_of_append f' h
    exact absurd hrest (hr _)
  | .more f c, .one f', r, r', _, hr', h => by
    simp only [Conjunction.tokens, List.append_assoc, List.cons_append] at h
    obtain ⟨-, hrest⟩ := f.eq_of_append f' h
    exact absurd hrest.symm (hr' _)
  | .more f c, .more f' c', r, r', hr, hr', h => by
    simp only [Conjunction.tokens, List.append_assoc, List.cons_append] at h
    obtain ⟨rfl, hrest⟩ := f.eq_of_append f' h
    obtain ⟨rfl, hend⟩ := c.eq_of_append c' hr hr' (List.cons.inj hrest).2
    exact ⟨rfl, hend⟩

/-- A factor can be split off in one way only. -/
lemma Factor.eq_of_append : ∀ (f f' : Factor) {r r' : List Token},
    f.tokens ++ r = f'.tokens ++ r' → f = f' ∧ r = r'
  | .not f, f', r, r', h => by
    cases f' with
    | not f' =>
      simp only [Factor.tokens, List.cons_append, List.cons.injEq, true_and] at h
      obtain ⟨rfl, hrest⟩ := f.eq_of_append f' h
      exact ⟨rfl, hrest⟩
    | term t => simp [Factor.tokens] at h
    | group d => simp [Factor.tokens] at h
  | .term t, f', r, r', h => by
    cases f' with
    | not f' => simp [Factor.tokens] at h
    | term t' => simpa [Factor.tokens] using h
    | group d => simp [Factor.tokens] at h
  | .group d, f', r, r', h => by
    cases f' with
    | not f' => simp [Factor.tokens] at h
    | term t => simp [Factor.tokens] at h
    | group d' =>
      simp only [Factor.tokens, List.cons_append, List.append_assoc, List.nil_append,
        List.cons.injEq, true_and] at h
      obtain ⟨rfl, hrest⟩ := d.eq_of_append d' (stopsAt_cons (by decide) _)
        (stopsAt_cons (by decide) _) (stopsAt_cons (by decide) _) (stopsAt_cons (by decide) _) h
      exact ⟨rfl, (List.cons.inj hrest).2⟩

end

/-- A query has at most one derivation. -/
theorem Disjunction.eq_of_tokens_eq {d d' : Disjunction} (h : d.tokens = d'.tokens) : d = d' :=
  (d.eq_of_append d' (stopsAt_nil _) (stopsAt_nil _) (stopsAt_nil _) (stopsAt_nil _)
    (congrArg (· ++ []) h)).1

end DocSearch.Query.Grammar
