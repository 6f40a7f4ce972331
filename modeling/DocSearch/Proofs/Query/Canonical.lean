import DocSearch.Proofs.Query.ExpansionSize
import DocSearch.Proofs.Query.Meaning

/-!
# Canonical form

What a query compiles to, if it is not one of the constants, is in canonical form
(`Compiler.canonical_of_compile`): there are some and not too many conjunctions, they are normal and
not empty, they ascend, none of them contains another one, and they mention tokens of the query
only. The algorithms on normal forms rely on this; so does whoever compares two normal forms, since
a set of conjunctions has one canonical arrangement.

The conjunctions are the minimal ones of an expansion, sorted once more. That they are normal and
incomparable is what absorption achieves. Their number is bounded by the cap on expansions; that
they are not empty and mention no other tokens is due to the expression that is expanded.
-/

namespace DocSearch.Query

lemma ascends_sorted_minimal (cs : List Conjunction) :
    Ascends compare ((minimal cs).mergeSort fun c d => (compare c d).isLE) := by
  refine ascends_mergeSort (List.Pairwise.imp ?_ (ascends_minimal cs).nodup)
  intro c d hne heq
  exact hne (Std.LawfulEqOrd.eq_of_compare heq)

/-- The canonical form of a query with the expression `e`. -/
structure Canonical (e : Expr) (cs : List Conjunction) : Prop where
  /-- There is a conjunction. -/
  length_pos : 1 ≤ cs.length
  /-- There are no more than are allowed. -/
  length_le : cs.length ≤ maxConjunctions
  /-- No conjunction is empty. -/
  literals_ne_nil : ∀ c ∈ cs, c.literals ≠ []
  /-- Literals ascend by token and then by sign. -/
  ascends_literals : ∀ c ∈ cs, Ascends compare c.literals
  /-- No conjunction has a token twice. -/
  nodup_tokens : ∀ c ∈ cs, (c.literals.map Literal.token).Nodup
  /-- Conjunctions ascend, compared literal by literal. -/
  ascends : Ascends compare cs
  /-- No conjunction contains the literals of another one. -/
  eq_of_subset : ∀ c ∈ cs, ∀ d ∈ cs, c.literals ⊆ d.literals → c = d
  /-- All tokens are those of the expression. -/
  token_mem : ∀ c ∈ cs, ∀ l ∈ c.literals, l.token ∈ e.tokens

/-- The expansion of a proper expression is simplified to canonical form or to a constant. -/
lemma canonical_of_simplify {e : Expr} {cs ds : List Conjunction} (he : e.Proper)
    (hcs : expand false e = .ok cs) (hds : simplify cs = .clauses ds) : Canonical e ds := by
  obtain ⟨hne, rfl⟩ := of_simplify_eq_clauses hds
  have hmem : ∀ {c}, c ∈ (minimal cs).mergeSort (fun c d => (compare c d).isLE) →
      c ∈ minimal cs := List.mem_mergeSort.1
  have hlength : ((minimal cs).mergeSort fun c d => (compare c d).isLE).length =
      (minimal cs).length := List.length_mergeSort _
  constructor
  case length_pos =>
    rw [hlength]
    exact List.length_pos_of_ne_nil hne
  case length_le =>
    rw [hlength]
    exact (length_minimal_le cs).trans (length_le_of_expand hcs)
  case literals_ne_nil =>
    intro c hc
    exact literals_ne_nil_of_mem_minimal hcs he (hmem hc)
  case ascends_literals =>
    intro c hc
    exact (normal_of_mem_minimal (hmem hc)).ascends
  case nodup_tokens =>
    intro c hc
    exact (normal_of_mem_minimal (hmem hc)).nodup_tokens
  case ascends => exact ascends_sorted_minimal cs
  case eq_of_subset =>
    intro c hc d hd hsub
    exact eq_of_subset_of_mem_minimal (hmem hc) (hmem hd) hsub
  case token_mem =>
    intro c hc l hl
    exact mem_ascending.2 (mem_occurrences_of_mem_minimal hcs (hmem hc) hl)

namespace Compiler

variable {c : Compiler} {query : String} {cs : List Conjunction}

/-- Conjunctions that a query compiles to are what an expansion of its expression is simplified
to. -/
lemma exists_simplify_of_compile (h : c.compile query = .ok (.clauses cs)) :
    ∃ e ds, e.Proper ∧ expand false e = .ok ds ∧ simplify ds = .clauses cs := by
  rcases compile_eq_ok_iff.1 h with ⟨-, hempty⟩ | ⟨e, ds, hparse, hexpand, hsimplify⟩
  · exact absurd hempty (by simp)
  · exact ⟨e, ds, proper_of_parse hparse, hexpand, hsimplify.symm⟩

/-- Conjunctions that a query compiles to are not empty, neither any of them nor their list. -/
lemma ne_nil_of_compile (h : c.compile query = .ok (.clauses cs)) :
    cs ≠ [] ∧ ∀ k ∈ cs, k.literals ≠ [] := by
  obtain ⟨e, ds, he, hexpand, hsimplify⟩ := exists_simplify_of_compile h
  have hcanonical := canonical_of_simplify he hexpand hsimplify
  exact ⟨List.ne_nil_of_length_pos hcanonical.length_pos, hcanonical.literals_ne_nil⟩

/-- **Queries compile to canonical form.** If a query compiles to conjunctions, it has an expression
and they are in canonical form. -/
theorem canonical_of_compile (h : c.compile query = .ok (.clauses cs)) :
    ∃ e, c.parse query = .ok (some e) ∧ Canonical e cs := by
  rcases compile_eq_ok_iff.1 h with ⟨-, hempty⟩ | ⟨e, ds, hparse, hexpand, hsimplify⟩
  · exact absurd hempty (by simp)
  · exact ⟨e, hparse, canonical_of_simplify (proper_of_parse hparse) hexpand hsimplify.symm⟩

theorem two_digits_canonical :
    ({} : Compiler).compile "1 2" = .ok (.clauses [⟨[⟨"1", false⟩, ⟨"2", false⟩]⟩]) ∧
      ∃ e, ({} : Compiler).parse "1 2" = .ok (some e) ∧
        Canonical e [⟨[⟨"1", false⟩, ⟨"2", false⟩]⟩] :=
  ⟨compile_two_digits, canonical_of_compile compile_two_digits⟩

end Compiler

end DocSearch.Query
