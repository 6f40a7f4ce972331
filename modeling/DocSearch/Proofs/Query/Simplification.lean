import DocSearch.Proofs.Query.Absorption

/-!
# Simplification

`simplify` reduces a list of conjunctions to the minimal ones and then recognizes the two constant
queries. Its result has the truth values of the list (`eval_simplify`). It is `never` exactly if the
list is false under every assignment: a minimal conjunction is consistent, so it can be satisfied.
It is `always` exactly if the minimal conjunctions mention some and not too many tokens and are true
under every assignment (`simplify_eq_always_iff`); trying the assignments of the tokens mentioned
covers all assignments, since the others do not matter.
-/

namespace DocSearch.Query

/-! ## Tautologies -/

lemma mem_tokens_clauses {cs : List Conjunction} {t : String} :
    t ∈ (Dnf.clauses cs).tokens ↔ ∃ c ∈ cs, ∃ l ∈ c.literals, l.token = t := by
  simp only [Dnf.tokens, Dnf.conjunctions, mem_ascending, List.mem_flatMap, List.mem_map]

/-- Only the tokens that are mentioned matter. -/
lemma any_eval_congr {cs : List Conjunction} {a b : Assignment}
    (h : ∀ t ∈ (Dnf.clauses cs).tokens, a t = b t) :
    cs.any (·.eval a) = cs.any (·.eval b) := by
  refine any_congr_of_mem fun c hc => all_congr_of_mem fun l hl => ?_
  rw [Literal.eval, Literal.eval, h l.token (mem_tokens_clauses.2 ⟨c, hc, l, hl, rfl⟩)]

/-- The recursion over tokens runs through all assignments that agree with `a` elsewhere. -/
lemma coversFrom_iff {cs : List Conjunction} {a : Assignment} {ts : List String} :
    coversFrom cs a ts = true ↔
      ∀ b : Assignment, (∀ s, s ∉ ts → b s = a s) → cs.any (·.eval b) = true := by
  induction ts generalizing a with
  | nil =>
    rw [coversFrom]
    constructor
    · intro h b hb
      have hba : b = a := funext fun s => hb s List.not_mem_nil
      rw [hba]
      exact h
    · exact fun h => h a fun _ _ => rfl
  | cons t ts ih =>
    rw [coversFrom, Bool.and_eq_true, ih, ih]
    constructor
    · rintro ⟨hfalse, htrue⟩ b hb
      -- `b` takes the branch of its own value at `t`
      have hoff : ∀ s, s ∉ ts → b s = if s = t then b t else a s := by
        intro s hs
        by_cases hst : s = t
        · rw [if_pos hst, hst]
        · rw [if_neg hst]
          exact hb s fun hmem => (List.mem_cons.1 hmem).elim hst hs
      cases hbt : b t with
      | false => exact hfalse b fun s hs => by rw [hoff s hs, hbt]
      | true => exact htrue b fun s hs => by rw [hoff s hs, hbt]
    · intro h
      refine ⟨fun b hb => h b fun s hs => ?_, fun b hb => h b fun s hs => ?_⟩
      all_goals
        obtain ⟨hst, hsts⟩ := not_or.1 fun hor => hs (List.mem_cons.2 hor)
        rw [hb s hsts, if_neg hst]

/-- A list passes the test for tautologies exactly if it mentions some and not too many tokens and
is true under every assignment. -/
theorem isTautology_iff {cs : List Conjunction} :
    isTautology cs = true ↔ (Dnf.clauses cs).tokens ≠ [] ∧
      (Dnf.clauses cs).tokens.length ≤ maxTautologyTokens ∧
      ∀ a, cs.any (·.eval a) = true := by
  have hcovers : coversFrom cs (fun _ => false) (Dnf.clauses cs).tokens = true ↔
      ∀ a, cs.any (·.eval a) = true := by
    rw [coversFrom_iff]
    constructor
    · intro h a
      -- the search starts from the assignment without tokens, so `a` is cut down to those mentioned
      have hrestricted := h (fun s => decide (s ∈ (Dnf.clauses cs).tokens) && a s) fun s hs => by
        rw [decide_eq_false hs, Bool.false_and]
      rw [← hrestricted]
      exact any_eval_congr fun t ht => by rw [decide_eq_true ht, Bool.true_and]
    · exact fun h b _ => h b
  simp only [isTautology, Bool.and_eq_true, Bool.not_eq_true', List.isEmpty_eq_false_iff,
    decide_eq_true_eq, hcovers, ne_eq, and_assoc]

/-! ## The three outcomes -/

section Simplify

variable {cs ds : List Conjunction}

lemma simplify_of_nil (h : minimal cs = []) : simplify cs = .never := by
  rw [simplify, h]

lemma simplify_of_ne_nil (h : minimal cs ≠ []) :
    simplify cs = if isTautology (minimal cs) then .always
      else .clauses ((minimal cs).mergeSort fun c d => (compare c d).isLE) := by
  rw [simplify]
  split
  · next hnil => exact absurd hnil h
  · rfl

/-- The conjunctions of a normal form are the minimal ones, sorted. -/
lemma of_simplify_eq_clauses (h : simplify cs = .clauses ds) :
    minimal cs ≠ [] ∧ ds = (minimal cs).mergeSort fun c d => (compare c d).isLE := by
  by_cases hnil : minimal cs = []
  · rw [simplify_of_nil hnil] at h
    exact absurd h (by simp)
  · rw [simplify_of_ne_nil hnil] at h
    split at h
    · exact absurd h (by simp)
    · exact ⟨hnil, (Dnf.clauses.inj h).symm⟩

lemma simplify_ne_empty (cs : List Conjunction) : simplify cs ≠ .empty := by
  by_cases h : minimal cs = []
  · rw [simplify_of_nil h]
    exact Dnf.noConfusion
  · rw [simplify_of_ne_nil h]
    split <;> exact Dnf.noConfusion

lemma any_eval_minimal (a : Assignment) (cs : List Conjunction) :
    (minimal cs).any (·.eval a) = cs.any (·.eval a) :=
  any_heldBy_minimal (Valuation.consistent_ofAssignment a) cs

/-- Simplification keeps the truth values of a list. -/
theorem eval_simplify (a : Assignment) (cs : List Conjunction) :
    (simplify cs).eval a = cs.any (·.eval a) := by
  by_cases hnil : minimal cs = []
  · rw [simplify_of_nil hnil, ← any_eval_minimal, hnil]
    rfl
  · rw [simplify_of_ne_nil hnil, ← any_eval_minimal]
    split
    · next htaut => exact ((isTautology_iff.1 htaut).2.2 a).symm
    · exact (List.mergeSort_perm (minimal cs) _).any_eq

/-- A minimal conjunction is true of the tokens that it asks for. -/
lemma exists_eval_of_mem_minimal {c : Conjunction} (hc : c ∈ minimal cs) :
    ∃ a, c.eval a = true := by
  refine ⟨fun t => decide (⟨t, false⟩ ∈ c.literals), List.all_eq_true.2 fun l hl => ?_⟩
  have hcons := (normal_of_mem_minimal hc).consistent l.token
  obtain ⟨t, n⟩ := l
  cases n with
  | false => simpa [Literal.eval] using hl
  | true =>
    have hplain : ⟨t, false⟩ ∉ c.literals := fun hf => hcons ⟨hf, hl⟩
    simpa [Literal.eval] using hplain

/-- Simplification recognizes all queries that cannot be satisfied. -/
theorem simplify_eq_never_iff :
    simplify cs = .never ↔ ∀ a, cs.any (·.eval a) = false := by
  constructor
  · intro h a
    rw [← eval_simplify, h]
    rfl
  · intro h
    refine simplify_of_nil (List.eq_nil_iff_forall_not_mem.2 fun c hc => ?_)
    obtain ⟨a, ha⟩ := exists_eval_of_mem_minimal hc
    have htrue : (minimal cs).any (·.eval a) = true := List.any_eq_true.2 ⟨c, hc, ha⟩
    rw [any_eval_minimal, h a] at htrue
    exact Bool.false_ne_true htrue

lemma simplify_eq_always_iff : simplify cs = .always ↔ isTautology (minimal cs) = true := by
  by_cases hnil : minimal cs = []
  · rw [simplify_of_nil hnil, hnil]
    simp [isTautology_iff]
  · rw [simplify_of_ne_nil hnil]
    by_cases htaut : isTautology (minimal cs) = true <;> simp [htaut]

/-- The normal form depends on nothing but the consistent valuations that hold some conjunction. -/
theorem simplify_congr (h : HeldAlike cs ds) : simplify cs = simplify ds := by
  rw [simplify, simplify, minimal_congr h]

end Simplify

end DocSearch.Query
