import DocSearch.Error
import DocSearch.Proofs.Query.Grammar
import DocSearch.Proofs.Query.Parsing

/-!
# The parser and the grammar

The parser accepts the tokens that have a derivation and no others, and returns the flattened tree
of the derivation (`parseTokens_eq_ok_iff`).

If a function of the parser succeeds, the phrases that it has read make up a derivation; this is
shown along the recursion of the parser. Conversely a derivation is read to its end wherever it is
not followed by an operator that would continue it; this is shown along the derivation.
-/

namespace DocSearch.Query.Grammar

/-! ## What is read has a derivation -/

mutual

lemma exists_disjunction (ts : List Token) (q : Phrase ts) (h : parseDisjunction ts = .ok q) :
    ∃ d : Disjunction, ts = d.tokens ++ q.rest ∧ q.expr = d.tree.flatten := by
  obtain ⟨p, r, hp, hr, hq, hrest⟩ := of_parseDisjunction h
  have := p.rest_lt
  obtain ⟨c, hts, hc⟩ := exists_conjunction ts p hp
  obtain ⟨d, htokens, hoperands⟩ := exists_alternatives p.rest r hr c
  refine ⟨d, ?_, ?_⟩
  · rw [hrest, ← htokens, ← hts]
  · rw [hq, hc, d.flatten_tree, hoperands]
-- here and below the measures are those of the parser
termination_by 6 * ts.length + 4

/-- The alternatives that are read continue any disjunction that so far is one conjunction. -/
lemma exists_alternatives (ts : List Token) (q : Operands ts) (h : parseAlternatives ts = .ok q)
    (c : Conjunction) : ∃ d : Disjunction, c.tokens ++ ts = d.tokens ++ q.rest ∧
      d.operands.map Expr.flatten = c.tree.flatten :: q.exprs := by
  rcases of_parseAlternatives h with ⟨us, p, r, hts, hp, hr, hq, hrest⟩ | ⟨-, hq, hrest⟩
  · have := p.rest_lt
    have hlen : ts.length = us.length + 1 := by rw [hts, List.length_cons]
    obtain ⟨c', hus, hc'⟩ := exists_conjunction us p hp
    obtain ⟨d, htokens, hoperands⟩ := exists_alternatives p.rest r hr c'
    refine ⟨.more c d, ?_, ?_⟩
    · rw [hrest, hts, Disjunction.tokens, List.append_assoc, List.cons_append, ← htokens, ← hus]
    · rw [Disjunction.operands, List.map_cons, hoperands, hq, hc']
      rfl
  · refine ⟨.one c, ?_, ?_⟩
    · rw [hrest, Disjunction.tokens]
    · rw [Disjunction.operands, hq]
      rfl
termination_by 6 * ts.length + 5

lemma exists_conjunction (ts : List Token) (q : Phrase ts) (h : parseConjunction ts = .ok q) :
    ∃ c : Conjunction, ts = c.tokens ++ q.rest ∧ q.expr = c.tree.flatten := by
  obtain ⟨p, r, hp, hr, hq, hrest⟩ := of_parseConjunction h
  have := p.rest_lt
  obtain ⟨f, hts, hf⟩ := exists_factor ts p hp
  obtain ⟨c, htokens, hoperands⟩ := exists_factors p.rest r hr f
  refine ⟨c, ?_, ?_⟩
  · rw [hrest, ← htokens, ← hts]
  · rw [hq, hf, c.flatten_tree, hoperands]
termination_by 6 * ts.length + 2

/-- The factors that are read continue any conjunction that so far is one factor. -/
lemma exists_factors (ts : List Token) (q : Operands ts) (h : parseFactors ts = .ok q)
    (f : Factor) : ∃ c : Conjunction, f.tokens ++ ts = c.tokens ++ q.rest ∧
      c.operands.map Expr.flatten = f.tree.flatten :: q.exprs := by
  rcases of_parseFactors h with ⟨us, p, r, hts, hp, hr, hq, hrest⟩ | ⟨-, hq, hrest⟩
  · have := p.rest_lt
    have hlen : ts.length = us.length + 1 := by rw [hts, List.length_cons]
    obtain ⟨f', hus, hf'⟩ := exists_factor us p hp
    obtain ⟨c, htokens, hoperands⟩ := exists_factors p.rest r hr f'
    refine ⟨.more f c, ?_, ?_⟩
    · rw [hrest, hts, Conjunction.tokens, List.append_assoc, List.cons_append, ← htokens, ← hus]
    · rw [Conjunction.operands, List.map_cons, hoperands, hq, hf']
  · refine ⟨.one f, ?_, ?_⟩
    · rw [hrest, Conjunction.tokens]
    · rw [Conjunction.operands, hq]
      rfl
termination_by 6 * ts.length + 3

lemma exists_factor (ts : List Token) (q : Phrase ts) (h : parseFactor ts = .ok q) :
    ∃ f : Factor, ts = f.tokens ++ q.rest ∧ q.expr = f.tree.flatten := by
  rcases of_parseFactor h with ⟨us, p, hts, hp, hq, hrest⟩ | ⟨t, us, hts, hq, hrest⟩ |
    ⟨us, p, vs, hts, -, hp, hvs, hq, hrest⟩
  · have hlen : ts.length = us.length + 1 := by rw [hts, List.length_cons]
    obtain ⟨f, hus, hf⟩ := exists_factor us p hp
    refine ⟨.not f, ?_, ?_⟩
    · rw [hrest, Factor.tokens, List.cons_append, ← hus, hts]
    · rw [hq, hf, Factor.tree, Expr.flatten]
  · refine ⟨.term t, ?_, ?_⟩
    · rw [hrest, hts, Factor.tokens]
      rfl
    · rw [hq, Factor.tree, Expr.flatten]
  · have hlen : ts.length = us.length + 1 := by rw [hts, List.length_cons]
    obtain ⟨d, hus, hd⟩ := exists_disjunction us p hp
    refine ⟨.group d, ?_, ?_⟩
    · rw [hrest, hts, hus, hvs, Factor.tokens, List.cons_append, List.append_assoc]
      rfl
    · rw [hq, hd, Factor.tree]
      rfl
termination_by 6 * ts.length

end

/-! ## Derivations are read -/

/-- A function of the parser reads a phrase with the tree `e` and leaves `rest`. -/
def ReadsPhrase (parse : (ts : List Token) → Except QueryError (Phrase ts)) (ts : List Token)
    (e : Expr) (rest : List Token) : Prop :=
  ∃ p, parse ts = .ok p ∧ p.expr = e ∧ p.rest = rest

/-- A function of the parser reads operands with the trees `es` and leaves `rest`. -/
def ReadsOperands (parse : (ts : List Token) → Except QueryError (Operands ts)) (ts : List Token)
    (es : List Expr) (rest : List Token) : Prop :=
  ∃ q, parse ts = .ok q ∧ q.exprs = es ∧ q.rest = rest

section Reading

variable {ts us rest : List Token} {e : Expr} {es : List Expr}

lemma readsDisjunction (he : ReadsPhrase parseConjunction ts e us)
    (hes : ReadsOperands parseAlternatives us es rest) :
    ReadsPhrase parseDisjunction ts (.anyOf (e :: es)) rest := by
  obtain ⟨p, hp, rfl, rfl⟩ := he
  obtain ⟨q, hq, rfl, rfl⟩ := hes
  rw [ReadsPhrase, parseDisjunction, hp]
  simp only [hq]
  exact ⟨_, rfl, rfl, rfl⟩

lemma readsAlternatives_nil (h : StopsAt .or ts) : ReadsOperands parseAlternatives ts [] ts := by
  rw [ReadsOperands, parseAlternatives.eq_def]
  split
  · exact absurd rfl (h _)
  · exact ⟨_, rfl, rfl, rfl⟩

lemma readsAlternatives_cons (he : ReadsPhrase parseConjunction ts e us)
    (hes : ReadsOperands parseAlternatives us es rest) :
    ReadsOperands parseAlternatives (.or :: ts) (e :: es) rest := by
  obtain ⟨p, hp, rfl, rfl⟩ := he
  obtain ⟨q, hq, rfl, rfl⟩ := hes
  rw [ReadsOperands, parseAlternatives, hp]
  simp only [hq]
  exact ⟨_, rfl, rfl, rfl⟩

lemma readsConjunction (he : ReadsPhrase parseFactor ts e us)
    (hes : ReadsOperands parseFactors us es rest) :
    ReadsPhrase parseConjunction ts (.allOf (e :: es)) rest := by
  obtain ⟨p, hp, rfl, rfl⟩ := he
  obtain ⟨q, hq, rfl, rfl⟩ := hes
  rw [ReadsPhrase, parseConjunction, hp]
  simp only [hq]
  exact ⟨_, rfl, rfl, rfl⟩

lemma readsFactors_nil (h : StopsAt .and ts) : ReadsOperands parseFactors ts [] ts := by
  rw [ReadsOperands, parseFactors.eq_def]
  split
  · exact absurd rfl (h _)
  · exact ⟨_, rfl, rfl, rfl⟩

lemma readsFactors_cons (he : ReadsPhrase parseFactor ts e us)
    (hes : ReadsOperands parseFactors us es rest) :
    ReadsOperands parseFactors (.and :: ts) (e :: es) rest := by
  obtain ⟨p, hp, rfl, rfl⟩ := he
  obtain ⟨q, hq, rfl, rfl⟩ := hes
  rw [ReadsOperands, parseFactors, hp]
  simp only [hq]
  exact ⟨_, rfl, rfl, rfl⟩

lemma readsFactor_not (he : ReadsPhrase parseFactor ts e rest) :
    ReadsPhrase parseFactor (.not :: ts) (.not e) rest := by
  obtain ⟨p, hp, rfl, rfl⟩ := he
  rw [ReadsPhrase, parseFactor, hp]
  exact ⟨_, rfl, rfl, rfl⟩

lemma readsFactor_term (t : String) (ts : List Token) :
    ReadsPhrase parseFactor (.term t :: ts) (.literal t) ts := by
  rw [ReadsPhrase, parseFactor]
  exact ⟨_, rfl, rfl, rfl⟩

lemma readsFactor_group (hts : StopsAt .closing ts)
    (he : ReadsPhrase parseDisjunction ts e (.closing :: rest)) :
    ReadsPhrase parseFactor (.opening :: ts) e rest := by
  obtain ⟨p, hp, rfl, hrest⟩ := he
  have hlt : rest.length < (Token.opening :: ts).length := by
    have := p.rest_lt
    rw [hrest, List.length_cons] at this
    rw [List.length_cons]
    omega
  refine ⟨⟨p.expr, rest, hlt⟩, ?_, rfl, rfl⟩
  rw [parseFactor.eq_4 _ fun us heq => hts us heq]
  simp only [hp]
  split
  · next vs hvs =>
    obtain rfl := (List.cons.inj (hvs.symm.trans hrest)).2
    rfl
  · next hno => exact absurd hrest (hno _)

end Reading

mutual

lemma Disjunction.stopsAt_closing : ∀ (d : Disjunction) (rest : List Token),
    StopsAt .closing (d.tokens ++ rest)
  | .one c, rest => by
    rw [Disjunction.tokens]
    exact c.stopsAt_closing rest
  | .more c d, rest => by
    rw [Disjunction.tokens, List.append_assoc]
    exact c.stopsAt_closing _

lemma Conjunction.stopsAt_closing : ∀ (c : Conjunction) (rest : List Token),
    StopsAt .closing (c.tokens ++ rest)
  | .one f, rest => by
    rw [Conjunction.tokens]
    exact f.stopsAt_closing rest
  | .more f c, rest => by
    rw [Conjunction.tokens, List.append_assoc]
    exact f.stopsAt_closing _

lemma Factor.stopsAt_closing : ∀ (f : Factor) (rest : List Token),
    StopsAt .closing (f.tokens ++ rest)
  | .not f, rest => by
    rw [Factor.tokens]
    exact stopsAt_cons (by simp) _
  | .term t, rest => by
    rw [Factor.tokens]
    exact stopsAt_cons (by simp) _
  | .group d, rest => by
    rw [Factor.tokens]
    exact stopsAt_cons (by simp) _

end

/-- A disjunction is read if its first conjunction and the alternatives behind it are. -/
lemma Disjunction.reads_of_reads_operands {d : Disjunction} {ts rest : List Token}
    (h : ∃ e us es, ReadsPhrase parseConjunction ts e us ∧
      ReadsOperands parseAlternatives us es rest ∧ e :: es = d.operands.map Expr.flatten) :
    ReadsPhrase parseDisjunction ts d.tree.flatten rest := by
  obtain ⟨e, us, es, he, hes, hoperands⟩ := h
  rw [d.flatten_tree, ← hoperands]
  exact readsDisjunction he hes

/-- A conjunction is read if its first factor and the factors behind it are. -/
lemma Conjunction.reads_of_reads_operands {c : Conjunction} {ts rest : List Token}
    (h : ∃ e us es, ReadsPhrase parseFactor ts e us ∧
      ReadsOperands parseFactors us es rest ∧ e :: es = c.operands.map Expr.flatten) :
    ReadsPhrase parseConjunction ts c.tree.flatten rest := by
  obtain ⟨e, us, es, he, hes, hoperands⟩ := h
  rw [c.flatten_tree, ← hoperands]
  exact readsConjunction he hes

mutual

lemma Disjunction.reads_operands : ∀ (d : Disjunction) {rest : List Token},
    StopsAt .and rest → StopsAt .or rest →
      ∃ e us es, ReadsPhrase parseConjunction (d.tokens ++ rest) e us ∧
        ReadsOperands parseAlternatives us es rest ∧ e :: es = d.operands.map Expr.flatten
  | .one c, rest, hand, hor => by
    have hc := Conjunction.reads_of_reads_operands (c.reads_operands hand)
    refine ⟨c.tree.flatten, rest, [], ?_, readsAlternatives_nil hor, ?_⟩
    · rw [Disjunction.tokens]
      exact hc
    · rw [Disjunction.operands]
      rfl
  | .more c d, rest, hand, hor => by
    -- the `or` behind the first conjunction ends it
    have hc := Conjunction.reads_of_reads_operands
      (c.reads_operands (stopsAt_cons (by decide : Token.or ≠ .and) (d.tokens ++ rest)))
    obtain ⟨e, us, es, he, hes, hoperands⟩ := d.reads_operands hand hor
    refine ⟨c.tree.flatten, .or :: (d.tokens ++ rest), e :: es, ?_,
      readsAlternatives_cons he hes, ?_⟩
    · rw [Disjunction.tokens, List.append_assoc]
      exact hc
    · rw [Disjunction.operands, List.map_cons, hoperands]
      rfl

lemma Conjunction.reads_operands : ∀ (c : Conjunction) {rest : List Token}, StopsAt .and rest →
    ∃ e us es, ReadsPhrase parseFactor (c.tokens ++ rest) e us ∧
      ReadsOperands parseFactors us es rest ∧ e :: es = c.operands.map Expr.flatten
  | .one f, rest, hand => by
    refine ⟨f.tree.flatten, rest, [], ?_, readsFactors_nil hand, ?_⟩
    · rw [Conjunction.tokens]
      exact f.reads rest
    · rw [Conjunction.operands]
      rfl
  | .more f c, rest, hand => by
    obtain ⟨e, us, es, he, hes, hoperands⟩ := c.reads_operands hand
    refine ⟨f.tree.flatten, .and :: (c.tokens ++ rest), e :: es, ?_,
      readsFactors_cons he hes, ?_⟩
    · rw [Conjunction.tokens, List.append_assoc]
      exact f.reads _
    · rw [Conjunction.operands, List.map_cons, hoperands]

lemma Factor.reads : ∀ (f : Factor) (rest : List Token),
    ReadsPhrase parseFactor (f.tokens ++ rest) f.tree.flatten rest
  | .not f, rest => by
    rw [Factor.tokens, Factor.tree, Expr.flatten]
    exact readsFactor_not (f.reads rest)
  | .term t, rest => by
    rw [Factor.tokens, Factor.tree, Expr.flatten]
    exact readsFactor_term t rest
  | .group d, rest => by
    have hd := Disjunction.reads_of_reads_operands (d.reads_operands
      (stopsAt_cons (by decide : Token.closing ≠ .and) rest) (stopsAt_cons (by decide) rest))
    rw [Factor.tokens, List.cons_append, List.append_assoc]
    exact readsFactor_group (d.stopsAt_closing _) hd

end

/-! ## Whole queries -/

lemma parseTokens_eq_ok {ts : List Token} {e : Expr}
    (h : ReadsPhrase parseDisjunction ts e []) : parseTokens ts = .ok e := by
  obtain ⟨p, hp, rfl, hrest⟩ := h
  rw [parseTokens, hp]
  simp only [hrest]

lemma readsDisjunction_of_parseTokens {ts : List Token} {e : Expr} (h : parseTokens ts = .ok e) :
    ReadsPhrase parseDisjunction ts e [] := by
  rw [parseTokens] at h
  split at h
  · exact absurd h (by simp)
  · next p hp =>
    split at h
    · next hrest => exact ⟨p, hp, Except.ok.inj h, hrest⟩
    · exact absurd h (by simp)
    · exact absurd h (by simp)

/-- The parser accepts the tokens that have a derivation, with its flattened tree. -/
theorem parseTokens_eq_ok_iff {ts : List Token} {e : Expr} :
    parseTokens ts = .ok e ↔ ∃ d : Disjunction, d.tokens = ts ∧ e = d.tree.flatten := by
  constructor
  · intro h
    obtain ⟨p, hp, rfl, hrest⟩ := readsDisjunction_of_parseTokens h
    obtain ⟨d, hts, he⟩ := exists_disjunction ts p hp
    rw [hrest, List.append_nil] at hts
    exact ⟨d, hts.symm, he⟩
  · rintro ⟨d, rfl, rfl⟩
    have hd := Disjunction.reads_of_reads_operands
      (d.reads_operands (stopsAt_nil .and) (stopsAt_nil .or))
    rw [List.append_nil] at hd
    exact parseTokens_eq_ok hd

lemma parseTokens_nil : parseTokens [] = .error .unexpectedEnd := by
  cbv

end DocSearch.Query.Grammar

namespace DocSearch.Query.Compiler

open Grammar (Disjunction)

variable {c : Compiler} {query : String}

lemma parse_eq_none_iff : c.parse query = .ok none ↔ c.tokens query = [] := by
  by_cases hts : c.tokens query = []
  · simp [parse_of_tokens_nil hts, hts]
  · simp [parse_of_tokens_ne_nil hts, hts, map_eq_ok_iff]

lemma parse_eq_some_iff {e : Expr} : c.parse query = .ok (some e) ↔
    ∃ d : Disjunction, d.tokens = c.tokens query ∧ e = d.tree.flatten := by
  rw [← Grammar.parseTokens_eq_ok_iff]
  by_cases hts : c.tokens query = []
  · rw [parse_of_tokens_nil hts, hts]
    simp [Grammar.parseTokens_nil]
  · simp [parse_of_tokens_ne_nil hts, map_eq_ok_iff]

/-- **The parser accepts exactly the grammar.** With the tokens that are left of a query when every
`and` is written out:

* the query has no expression exactly if there are no tokens,
* it has the expression `e` exactly if the tokens have a derivation and `e` is its tree with
  conjunctions directly inside conjunctions and disjunctions directly inside disjunctions spread
  out,
* the derivation is the only one of these tokens, and the flattened tree is flat and has the truth
  values of the tree itself,
* all other tokens are rejected as an invalid query. -/
theorem parse_exact (c : Compiler) (query : String) :
    (c.parse query = .ok none ↔ c.tokens query = []) ∧
      (∀ e, c.parse query = .ok (some e) ↔
        ∃ d : Disjunction, d.tokens = c.tokens query ∧ e = d.tree.flatten) ∧
      (∀ d : Disjunction, d.tokens = c.tokens query →
        (∀ d' : Disjunction, d'.tokens = c.tokens query → d' = d) ∧
          d.tree.flatten.Flat ∧ ∀ a : Assignment, d.tree.flatten.eval a = d.tree.eval a) ∧
      (c.tokens query ≠ [] → (∀ d : Disjunction, d.tokens ≠ c.tokens query) →
        ∃ cause, (c.parse query).mapError Error.invalidQuery = .error (.invalidQuery cause)) := by
  refine ⟨parse_eq_none_iff, fun e => parse_eq_some_iff, fun d hd => ⟨fun d' hd' => ?_,
    d.flat_tree, fun a => Expr.eval_flatten a d.tree⟩, fun hne hno => ?_⟩
  · exact Disjunction.eq_of_tokens_eq (hd'.trans hd.symm)
  · rcases hparse : c.parse query with cause | _ | e
    · exact ⟨cause, rfl⟩
    · exact absurd (parse_eq_none_iff.1 hparse) hne
    · obtain ⟨d, hd, -⟩ := parse_eq_some_iff.1 hparse
      exact absurd hd (hno d)

end DocSearch.Query.Compiler
