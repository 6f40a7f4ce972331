import DocSearch.Proofs.Query.Expansion
import DocSearch.Proofs.Query.Parsing
import DocSearch.Proofs.Query.Simplification
import DocSearch.Proofs.Query.Splitting

/-!
# The meaning of compiled queries

A query that compiles was parsed, and its normal form has the truth values of its expression
(`compile_preserves_meaning`). The two constant normal forms are exact (`never_always_exact`):
`never` stands for all queries that cannot be satisfied, `always` for all that cannot fail as long
as they mention at most twelve tokens.

For the second of these the minimal conjunctions have to be compared with the expression that they
come from: they mention no other tokens, since a literal over another token could be left out of a
minimal conjunction, and they are not empty, since a parsed expression is not settled by nothing.
-/

namespace DocSearch.Query

/-! ## Minimal conjunctions of an expression -/

section Minimal

variable {negated : Bool} {e : Expr} {cs : List Conjunction} {c : Conjunction}

/-- The expression is held by the consistent valuations that hold one of its minimal
conjunctions. -/
lemma any_heldBy_minimal_expand (h : expand negated e = .ok cs) {v : Valuation}
    (hv : v.Consistent) : (minimal cs).any (·.heldBy v) = e.heldBy v negated := by
  rw [any_heldBy_minimal hv, any_heldBy_expand hv e h]

/-- The literals of a conjunction over other tokens than `t`. -/
def literalsWithout (t : String) (c : Conjunction) : List Literal :=
  c.literals.filter fun l => l.token ≠ t

lemma mem_literalsWithout {t : String} {l : Literal} :
    l ∈ literalsWithout t c ↔ l ∈ c.literals ∧ l.token ≠ t := by
  simp [literalsWithout]

lemma mem_occurrences_of_mem_minimal (h : expand negated e = .ok cs) (hc : c ∈ minimal cs)
    {l : Literal} (hl : l ∈ c.literals) : l.token ∈ e.occurrences := by
  by_contra hnot
  have hcons := (normal_of_mem_minimal hc).consistent
  have hrest : ConsistentLiterals (literalsWithout l.token c) := fun t ⟨hf, ht⟩ =>
    hcons t ⟨(mem_literalsWithout.1 hf).1, (mem_literalsWithout.1 ht).1⟩
  -- the expression does not tell the conjunction from what is left without the token of `l`
  have hsame : e.heldBy (.ofLiterals c.literals) negated =
      e.heldBy (.ofLiterals (literalsWithout l.token c)) negated := by
    refine Expr.heldBy_congr (fun t ht n => ?_) negated
    have hne : t ≠ l.token := fun heq => hnot (heq ▸ ht)
    simp [Valuation.ofLiterals, mem_literalsWithout, hne]
  have hheld : (minimal cs).any (·.heldBy (.ofLiterals (literalsWithout l.token c))) = true := by
    rw [any_heldBy_minimal_expand h (Valuation.consistent_ofLiterals hrest), ← hsame,
      ← any_heldBy_minimal_expand h (Valuation.consistent_ofLiterals hcons)]
    exact List.any_eq_true.2 ⟨c, hc, Conjunction.heldBy_ofLiterals.2 (List.Subset.refl _)⟩
  -- so a minimal conjunction is contained in what is left of `c`, which can only be `c` itself
  obtain ⟨d, hd, hdheld⟩ := List.any_eq_true.1 hheld
  have hsub := Conjunction.heldBy_ofLiterals.1 hdheld
  obtain rfl : d = c :=
    eq_of_subset_of_mem_minimal hd hc fun m hm => (mem_literalsWithout.1 (hsub hm)).1
  exact (mem_literalsWithout.1 (hsub hl)).2 rfl

lemma literals_ne_nil_of_mem_minimal (h : expand negated e = .ok cs) (he : e.Proper)
    (hc : c ∈ minimal cs) : c.literals ≠ [] := by
  intro hnil
  have hheld : (minimal cs).any (·.heldBy .empty) = true :=
    List.any_eq_true.2 ⟨c, hc, by rw [Conjunction.heldBy, hnil]; rfl⟩
  rw [any_heldBy_minimal_expand h Valuation.consistent_empty, he.heldBy_empty] at hheld
  exact Bool.false_ne_true hheld

lemma tokens_minimal_subset (h : expand negated e = .ok cs) :
    (Dnf.clauses (minimal cs)).tokens ⊆ e.tokens := by
  intro t ht
  obtain ⟨c, hc, l, hl, rfl⟩ := mem_tokens_clauses.1 ht
  exact mem_ascending.2 (mem_occurrences_of_mem_minimal h hc hl)

lemma length_tokens_minimal_le (h : expand negated e = .ok cs) :
    (Dnf.clauses (minimal cs)).tokens.length ≤ e.tokens.length :=
  (List.subperm_of_subset (ascends_ascending _).nodup (tokens_minimal_subset h)).length_le

lemma tokens_minimal_ne_nil (h : expand negated e = .ok cs) (he : e.Proper)
    (hne : minimal cs ≠ []) : (Dnf.clauses (minimal cs)).tokens ≠ [] := by
  obtain ⟨c, hc⟩ := List.exists_mem_of_ne_nil _ hne
  obtain ⟨l, hl⟩ := List.exists_mem_of_ne_nil _ (literals_ne_nil_of_mem_minimal h he hc)
  exact List.ne_nil_of_mem (mem_tokens_clauses.2 ⟨c, hc, l, hl, rfl⟩)

/-- The test for tautologies is exact for the expansion of a proper expression with few tokens. -/
lemma simplify_expand_eq_always_iff (h : expand false e = .ok cs) (he : e.Proper)
    (hfew : e.tokens.length ≤ maxTautologyTokens) :
    simplify cs = .always ↔ ∀ a, e.eval a = true := by
  have heval : ∀ a, (minimal cs).any (·.eval a) = e.eval a := fun a => by
    rw [any_eval_minimal, any_eval_expand h]
  rw [simplify_eq_always_iff, isTautology_iff]
  constructor
  · rintro ⟨-, -, hall⟩ a
    rw [← heval, hall]
  · intro hall
    have hle := Nat.le_trans (length_tokens_minimal_le h) hfew
    refine ⟨tokens_minimal_ne_nil h he ?_, hle, fun a => ?_⟩
    · -- otherwise the expression would be false
      intro hnil
      have htrue := heval fun _ => false
      rw [hnil, hall] at htrue
      exact Bool.false_ne_true htrue
    · rw [heval, hall]

end Minimal

/-! ## Compiling -/

namespace Compiler

variable {c : Compiler} {query : String} {d : Dnf}

/-- All that compiling does when it succeeds. -/
lemma compile_eq_ok_iff : c.compile query = .ok d ↔
    (c.parse query = .ok none ∧ d = .empty) ∨
    ∃ e cs, c.parse query = .ok (some e) ∧ expand false e = .ok cs ∧ d = simplify cs := by
  delta Compiler.compile
  rw [bind_eq_ok_iff]
  constructor
  · rintro ⟨_ | e, hparse, h⟩
    · exact Or.inl ⟨hparse, (Except.ok.inj h).symm⟩
    · obtain ⟨cs, hcs, h⟩ := bind_eq_ok_iff.1 h
      exact Or.inr ⟨e, cs, hparse, hcs, (Except.ok.inj h).symm⟩
  · rintro (⟨hparse, rfl⟩ | ⟨e, cs, hparse, hcs, rfl⟩)
    · exact ⟨none, hparse, rfl⟩
    · exact ⟨some e, hparse, bind_eq_ok_iff.2 ⟨cs, hcs, rfl⟩⟩

/-- The expansion behind a query that compiles and has an expression. -/
lemma exists_expand_of_compile (hd : c.compile query = .ok d) {e : Expr}
    (he : c.parse query = .ok (some e)) : ∃ cs, expand false e = .ok cs ∧ d = simplify cs := by
  rcases compile_eq_ok_iff.1 hd with ⟨hnone, -⟩ | ⟨f, cs, hf, hcs, hsimp⟩
  · rw [hnone] at he
    exact absurd he (by simp)
  · rw [hf] at he
    obtain rfl := Option.some.inj (Except.ok.inj he)
    exact ⟨cs, hcs, hsimp⟩

/-- A query that compiles and its expression have the same truth values. -/
lemma eval_of_compile (hd : c.compile query = .ok d) {e : Expr}
    (he : c.parse query = .ok (some e)) (a : Assignment) : d.eval a = e.eval a := by
  obtain ⟨cs, hcs, rfl⟩ := exists_expand_of_compile hd he
  rw [eval_simplify, any_eval_expand hcs]

/-! ### A query of two words -/

lemma tokens_two_digits {x y : Char} (hx : Unicode.digit.Spans x.toNat)
    (hy : Unicode.digit.Spans y.toNat) :
    ({} : Compiler).tokens (String.ofList [x, ' ', y]) =
      [.term (String.ofList [x]), .and, .term (String.ofList [y])] := by
  rw [tokens, Token.scan_two_digits hx hy]
  rfl

lemma parse_two_digits :
    ({} : Compiler).parse "1 2" = .ok (some (.and [.literal "1", .literal "2"])) := by
  have htokens : ({} : Compiler).tokens "1 2" = [.term "1", .and, .term "2"] :=
    tokens_two_digits (by decide) (by decide)
  rw [parse_of_tokens_ne_nil (by rw [htokens]; exact List.cons_ne_nil _ _), htokens]
  cbv

lemma compile_two_digits :
    ({} : Compiler).compile "1 2" = .ok (.clauses [⟨[⟨"1", false⟩, ⟨"2", false⟩]⟩]) :=
  compile_eq_ok_iff.2
    (Or.inr ⟨_, [⟨[⟨"1", false⟩, ⟨"2", false⟩]⟩], parse_two_digits, by cbv, by cbv⟩)

/-! ### The meaning of a compiled query -/

/-- **Compiling keeps the meaning of a query.** A query that compiles can be parsed. Its normal form
is the empty one exactly if it has no expression, and else has the truth value of its expression
under every assignment. -/
theorem compile_preserves_meaning (h : c.compile query = .ok d) :
    ∃ parsed, c.parse query = .ok parsed ∧ (d = .empty ↔ parsed = none) ∧
      ∀ e, parsed = some e → ∀ a : Assignment, d.eval a = e.eval a := by
  rcases compile_eq_ok_iff.1 h with ⟨hparse, rfl⟩ | ⟨e, cs, hparse, hcs, rfl⟩
  · exact ⟨none, hparse, by simp, fun e he => absurd he (by simp)⟩
  · refine ⟨some e, hparse, by simp [simplify_ne_empty], fun f hf a => ?_⟩
    obtain rfl := Option.some.inj hf
    exact eval_of_compile h hparse a

theorem two_digits_keep_meaning :
    ({} : Compiler).compile "1 2" = .ok (.clauses [⟨[⟨"1", false⟩, ⟨"2", false⟩]⟩]) ∧
      ∃ parsed, ({} : Compiler).parse "1 2" = .ok parsed ∧
        (Dnf.clauses [⟨[⟨"1", false⟩, ⟨"2", false⟩]⟩] = .empty ↔ parsed = none) ∧
        ∀ e, parsed = some e → ∀ a : Assignment,
          (Dnf.clauses [⟨[⟨"1", false⟩, ⟨"2", false⟩]⟩]).eval a = e.eval a :=
  ⟨compile_two_digits, compile_preserves_meaning compile_two_digits⟩

/-- **The constant normal forms are exact.** A query compiles to `never` exactly if it is false
under every assignment. If it compiles to `always` it is true under every assignment, and the
converse holds for queries of at most twelve distinct tokens. -/
theorem never_always_exact {e : Expr} (hd : c.compile query = .ok d)
    (he : c.parse query = .ok (some e)) :
    (d = .never ↔ ∀ a : Assignment, e.eval a = false) ∧
      (d = .always → ∀ a : Assignment, e.eval a = true) ∧
      (e.tokens.length ≤ 12 → (d = .always ↔ ∀ a : Assignment, e.eval a = true)) := by
  obtain ⟨cs, hcs, rfl⟩ := exists_expand_of_compile hd he
  refine ⟨?_, ?_, simplify_expand_eq_always_iff hcs (proper_of_parse he)⟩
  · simp only [simplify_eq_never_iff, any_eval_expand hcs]
  · intro halways a
    rw [← eval_of_compile hd he, halways]
    rfl

theorem two_digits_never_always :
    ({} : Compiler).compile "1 2" = .ok (.clauses [⟨[⟨"1", false⟩, ⟨"2", false⟩]⟩]) ∧
      ({} : Compiler).parse "1 2" = .ok (some (.and [.literal "1", .literal "2"])) ∧
      (Expr.and [.literal "1", .literal "2"]).tokens.length ≤ 12 ∧
      (Dnf.clauses [⟨[⟨"1", false⟩, ⟨"2", false⟩]⟩] = .never ↔
        ∀ a : Assignment, (Expr.and [.literal "1", .literal "2"]).eval a = false) ∧
      (Dnf.clauses [⟨[⟨"1", false⟩, ⟨"2", false⟩]⟩] = .always ↔
        ∀ a : Assignment, (Expr.and [.literal "1", .literal "2"]).eval a = true) := by
  have hfew : (Expr.and [.literal "1", .literal "2"]).tokens.length ≤ 12 := by cbv
  obtain ⟨hnever, -, halways⟩ := never_always_exact compile_two_digits parse_two_digits
  exact ⟨compile_two_digits, parse_two_digits, hfew, hnever, halways hfew⟩

end Compiler

end DocSearch.Query
