import DocSearch.Query.Compiler
import DocSearch.Proofs.Query.Valuation

/-!
# What the parser returns

Each function of the parser is inverted once: the lemmas `of_parse…` say which phrases it has read
when it succeeds and how its tree is made from theirs. From these it follows that an expression that
was parsed has no empty conjunction and no empty disjunction (`proper_of_parse`).
-/

namespace DocSearch.Query

/-! ## The steps of the parser -/

section Steps

variable {ts : List Token}

lemma of_parseDisjunction {q : Phrase ts} (h : parseDisjunction ts = .ok q) :
    ∃ (p : Phrase ts) (r : Operands p.rest), parseConjunction ts = .ok p ∧
      parseAlternatives p.rest = .ok r ∧ q.expr = .anyOf (p.expr :: r.exprs) ∧
      q.rest = r.rest := by
  rw [parseDisjunction] at h
  split at h
  · exact absurd h (by simp)
  · next p hp =>
    split at h
    · exact absurd h (by simp)
    · next r hr =>
      obtain rfl := Except.ok.inj h
      exact ⟨p, r, hp, hr, rfl, rfl⟩

lemma of_parseAlternatives {q : Operands ts} (h : parseAlternatives ts = .ok q) :
    (∃ (us : List Token) (p : Phrase us) (r : Operands p.rest), ts = .or :: us ∧
      parseConjunction us = .ok p ∧ parseAlternatives p.rest = .ok r ∧
      q.exprs = p.expr :: r.exprs ∧ q.rest = r.rest) ∨
    ((∀ us, ts ≠ .or :: us) ∧ q.exprs = [] ∧ q.rest = ts) := by
  rw [parseAlternatives.eq_def] at h
  split at h
  · next us =>
    split at h
    · exact absurd h (by simp)
    · next p hp =>
      split at h
      · exact absurd h (by simp)
      · next r hr =>
        obtain rfl := Except.ok.inj h
        exact Or.inl ⟨us, p, r, rfl, hp, hr, rfl, rfl⟩
  · next hno =>
    obtain rfl := Except.ok.inj h
    exact Or.inr ⟨fun us => hno us, rfl, rfl⟩

lemma of_parseConjunction {q : Phrase ts} (h : parseConjunction ts = .ok q) :
    ∃ (p : Phrase ts) (r : Operands p.rest), parseFactor ts = .ok p ∧
      parseFactors p.rest = .ok r ∧ q.expr = .allOf (p.expr :: r.exprs) ∧ q.rest = r.rest := by
  rw [parseConjunction] at h
  split at h
  · exact absurd h (by simp)
  · next p hp =>
    split at h
    · exact absurd h (by simp)
    · next r hr =>
      obtain rfl := Except.ok.inj h
      exact ⟨p, r, hp, hr, rfl, rfl⟩

lemma of_parseFactors {q : Operands ts} (h : parseFactors ts = .ok q) :
    (∃ (us : List Token) (p : Phrase us) (r : Operands p.rest), ts = .and :: us ∧
      parseFactor us = .ok p ∧ parseFactors p.rest = .ok r ∧
      q.exprs = p.expr :: r.exprs ∧ q.rest = r.rest) ∨
    ((∀ us, ts ≠ .and :: us) ∧ q.exprs = [] ∧ q.rest = ts) := by
  rw [parseFactors.eq_def] at h
  split at h
  · next us =>
    split at h
    · exact absurd h (by simp)
    · next p hp =>
      split at h
      · exact absurd h (by simp)
      · next r hr =>
        obtain rfl := Except.ok.inj h
        exact Or.inl ⟨us, p, r, rfl, hp, hr, rfl, rfl⟩
  · next hno =>
    obtain rfl := Except.ok.inj h
    exact Or.inr ⟨fun us => hno us, rfl, rfl⟩

lemma of_parseFactor {q : Phrase ts} (h : parseFactor ts = .ok q) :
    (∃ (us : List Token) (p : Phrase us), ts = .not :: us ∧ parseFactor us = .ok p ∧
      q.expr = .not p.expr ∧ q.rest = p.rest) ∨
    (∃ (t : String) (us : List Token), ts = .term t :: us ∧ q.expr = .literal t ∧ q.rest = us) ∨
    (∃ (us : List Token) (p : Phrase us) (vs : List Token), ts = .opening :: us ∧
      (∀ ws, us ≠ .closing :: ws) ∧ parseDisjunction us = .ok p ∧ p.rest = .closing :: vs ∧
      q.expr = p.expr ∧ q.rest = vs) := by
  rw [parseFactor.eq_def] at h
  split at h
  · next us =>
    split at h
    · exact absurd h (by simp)
    · next p hp =>
      obtain rfl := Except.ok.inj h
      exact Or.inl ⟨us, p, rfl, hp, rfl, rfl⟩
  · next t us =>
    obtain rfl := Except.ok.inj h
    exact Or.inr (Or.inl ⟨t, us, rfl, rfl, rfl⟩)
  · exact absurd h (by simp)
  · next us hno =>
    split at h
    · exact absurd h (by simp)
    · next p hp =>
      split at h
      · next vs hvs =>
        obtain rfl := Except.ok.inj h
        exact Or.inr (Or.inr ⟨us, p, vs, rfl, hno, hp, hvs, rfl, rfl⟩)
      · exact absurd h (by simp)
  · exact absurd h (by simp)
  · exact absurd h (by simp)

end Steps

/-! ## Parsed expressions are proper -/

namespace Expr

/-- There are expressions in the list, and they are proper. -/
def ProperOperands (es : List Expr) : Prop :=
  es ≠ [] ∧ ∀ e ∈ es, e.Proper

lemma Proper.singleton {e : Expr} (h : e.Proper) : ProperOperands [e] := by
  refine ⟨List.cons_ne_nil e [], fun f hf => ?_⟩
  obtain rfl := List.mem_singleton.1 hf
  exact h

lemma Proper.conjuncts {e : Expr} (h : e.Proper) : ProperOperands e.conjuncts := by
  match e, h with
  | .literal t, h => exact h.singleton
  | .not e, h => exact h.singleton
  | .and es, .and hne hes => exact ⟨hne, hes⟩
  | .or es, h => exact h.singleton

lemma Proper.disjuncts {e : Expr} (h : e.Proper) : ProperOperands e.disjuncts := by
  match e, h with
  | .literal t, h => exact h.singleton
  | .not e, h => exact h.singleton
  | .and es, h => exact h.singleton
  | .or es, .or hne hes => exact ⟨hne, hes⟩

/-- Spreading nested operands out leaves no list of operands empty. -/
lemma ProperOperands.flatMap {es : List Expr} (h : ProperOperands es) {f : Expr → List Expr}
    (hf : ∀ e, e.Proper → ProperOperands (f e)) : ProperOperands (es.flatMap f) := by
  obtain ⟨hne, hes⟩ := h
  constructor
  · obtain ⟨e, he⟩ := List.exists_mem_of_ne_nil es hne
    obtain ⟨g, hg⟩ := List.exists_mem_of_ne_nil _ (hf e (hes e he)).1
    exact List.ne_nil_of_mem (List.mem_flatMap.2 ⟨e, he, hg⟩)
  · intro g hg
    obtain ⟨e, he, hge⟩ := List.mem_flatMap.1 hg
    exact (hf e (hes e he)).2 g hge

lemma ProperOperands.allOf {es : List Expr} (h : ProperOperands es) : (allOf es).Proper := by
  obtain ⟨hne, hes⟩ := h.flatMap fun e => Proper.conjuncts
  rw [Expr.allOf]
  split
  · next e heq => exact hes e (by rw [heq]; exact List.mem_singleton.2 rfl)
  · exact Proper.and hne hes

lemma ProperOperands.anyOf {es : List Expr} (h : ProperOperands es) : (anyOf es).Proper := by
  obtain ⟨hne, hes⟩ := h.flatMap fun e => Proper.disjuncts
  rw [Expr.anyOf]
  split
  · next e heq => exact hes e (by rw [heq]; exact List.mem_singleton.2 rfl)
  · exact Proper.or hne hes

lemma ProperOperands.cons {e : Expr} {es : List Expr} (he : e.Proper)
    (hes : ∀ f ∈ es, f.Proper) : ProperOperands (e :: es) :=
  ⟨List.cons_ne_nil e es, List.forall_mem_cons.2 ⟨he, hes⟩⟩

end Expr

open DocSearch.Query.Expr (ProperOperands)

mutual

theorem proper_parseDisjunction (ts : List Token) (q : Phrase ts)
    (h : parseDisjunction ts = .ok q) : q.expr.Proper := by
  obtain ⟨p, r, hp, hr, hq, -⟩ := of_parseDisjunction h
  have := p.rest_lt
  rw [hq]
  exact (ProperOperands.cons (proper_parseConjunction ts p hp)
    (proper_parseAlternatives p.rest r hr)).anyOf
-- here and below the measures are those of the parser
termination_by 6 * ts.length + 4

theorem proper_parseAlternatives (ts : List Token) (q : Operands ts)
    (h : parseAlternatives ts = .ok q) : ∀ e ∈ q.exprs, e.Proper := by
  rcases of_parseAlternatives h with ⟨us, p, r, hts, hp, hr, hq, -⟩ | ⟨-, hq, -⟩
  · have := p.rest_lt
    have hlen : ts.length = us.length + 1 := by rw [hts, List.length_cons]
    rw [hq]
    exact List.forall_mem_cons.2 ⟨proper_parseConjunction us p hp,
      proper_parseAlternatives p.rest r hr⟩
  · rw [hq]
    exact fun e he => absurd he List.not_mem_nil
termination_by 6 * ts.length + 5

theorem proper_parseConjunction (ts : List Token) (q : Phrase ts)
    (h : parseConjunction ts = .ok q) : q.expr.Proper := by
  obtain ⟨p, r, hp, hr, hq, -⟩ := of_parseConjunction h
  have := p.rest_lt
  rw [hq]
  exact (ProperOperands.cons (proper_parseFactor ts p hp) (proper_parseFactors p.rest r hr)).allOf
termination_by 6 * ts.length + 2

theorem proper_parseFactors (ts : List Token) (q : Operands ts)
    (h : parseFactors ts = .ok q) : ∀ e ∈ q.exprs, e.Proper := by
  rcases of_parseFactors h with ⟨us, p, r, hts, hp, hr, hq, -⟩ | ⟨-, hq, -⟩
  · have := p.rest_lt
    have hlen : ts.length = us.length + 1 := by rw [hts, List.length_cons]
    rw [hq]
    exact List.forall_mem_cons.2 ⟨proper_parseFactor us p hp, proper_parseFactors p.rest r hr⟩
  · rw [hq]
    exact fun e he => absurd he List.not_mem_nil
termination_by 6 * ts.length + 3

theorem proper_parseFactor (ts : List Token) (q : Phrase ts)
    (h : parseFactor ts = .ok q) : q.expr.Proper := by
  rcases of_parseFactor h with ⟨us, p, hts, hp, hq, -⟩ | ⟨t, us, -, hq, -⟩ |
    ⟨us, p, vs, hts, -, hp, -, hq, -⟩
  · have hlen : ts.length = us.length + 1 := by rw [hts, List.length_cons]
    rw [hq]
    exact .not (proper_parseFactor us p hp)
  · rw [hq]
    exact .literal t
  · have hlen : ts.length = us.length + 1 := by rw [hts, List.length_cons]
    rw [hq]
    exact proper_parseDisjunction us p hp
termination_by 6 * ts.length

end

lemma proper_parseTokens {ts : List Token} {e : Expr} (h : parseTokens ts = .ok e) :
    e.Proper := by
  rw [parseTokens] at h
  split at h
  · exact absurd h (by simp)
  · next p hp =>
    split at h
    · obtain rfl := Except.ok.inj h
      exact proper_parseDisjunction ts p hp
    · exact absurd h (by simp)
    · exact absurd h (by simp)

namespace Compiler

variable {c : Compiler} {query : String}

lemma parse_of_tokens_nil (h : c.tokens query = []) : c.parse query = .ok none := by
  delta Compiler.parse
  rw [h]

lemma parse_of_tokens_ne_nil (h : c.tokens query ≠ []) :
    c.parse query = (parseTokens (c.tokens query)).map some := by
  delta Compiler.parse
  split
  · next hnil => exact absurd hnil h
  · rfl

/-- A query that was parsed has no empty conjunction or disjunction. -/
theorem proper_of_parse {e : Expr} (h : c.parse query = .ok (some e)) : e.Proper := by
  by_cases hts : c.tokens query = []
  · rw [parse_of_tokens_nil hts] at h
    exact absurd h (by simp)
  · rw [parse_of_tokens_ne_nil hts] at h
    obtain ⟨f, hf, hsome⟩ := map_eq_ok_iff.1 h
    obtain rfl := Option.some.inj hsome
    exact proper_parseTokens hf

end Compiler

end DocSearch.Query
