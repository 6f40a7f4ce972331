import DocSearch.Proofs.Query.Order
import DocSearch.Proofs.Query.Valuation

/-!
# Normal conjunctions

A conjunction is normal if its literals ascend and none of them contradicts another. Normalizing a
list of literals succeeds exactly if they are consistent, and gives the normal conjunction that has
these literals (`ofLiterals?_eq_some_iff`). So a normal conjunction is nothing but a finite
consistent set of literals, and absorption is inclusion (`absorbs_iff_subset`).
-/

namespace DocSearch.Query

namespace Conjunction

/-- The literals ascend and do not contradict each other. -/
structure Normal (c : Conjunction) : Prop where
  ascends : Ascends compare c.literals
  consistent : ConsistentLiterals c.literals

/-- A normal conjunction is determined by its set of literals. -/
lemma Normal.eq_of_subset {c d : Conjunction} (hc : c.Normal) (hd : d.Normal)
    (hcd : c.literals ⊆ d.literals) (hdc : d.literals ⊆ c.literals) : c = d := by
  have h : c.literals = d.literals :=
    hc.ascends.eq_of_mem_iff hd.ascends fun l => ⟨fun hl => hcd hl, fun hl => hdc hl⟩
  cases c
  cases d
  exact congrArg Conjunction.mk h

/-- In a normal conjunction no token occurs twice. -/
lemma Normal.nodup_tokens {c : Conjunction} (h : c.Normal) :
    (c.literals.map Literal.token).Nodup := by
  refine List.Nodup.map_on ?_ h.ascends.nodup
  rintro ⟨s, m⟩ hl ⟨t, n⟩ hk hst
  obtain rfl : s = t := hst
  cases m <;> cases n
  · rfl
  · exact absurd ⟨hl, hk⟩ (h.consistent s)
  · exact absurd ⟨hk, hl⟩ (h.consistent s)
  · rfl

/-! ### Contradictions -/

lemma isLE_token_of_isLE {a b : Literal} (h : (compare a b).isLE) :
    (compare a.token b.token).isLE := by
  have hthen : ((compare a.token b.token).then (compare a.negated b.negated)).isLE := h
  cases ht : compare a.token b.token with
  | lt => rfl
  | eq => rfl
  | gt =>
    rw [ht] at hthen
    exact hthen

lemma negated_of_lt {a b : Literal} (h : compare a b = .lt) (ht : a.token = b.token) :
    a.negated = false ∧ b.negated = true := by
  have hthen : (compare a.token b.token).then (compare a.negated b.negated) = .lt := h
  rw [ht, Std.compare_self] at hthen
  revert hthen
  cases a.negated <;> cases b.negated <;> decide

/-- Nothing with another token stands between a token and its negation. -/
lemma token_eq_of_between {t : String} {b : Literal} (hlt : compare ⟨t, false⟩ b = .lt)
    (hle : (compare b ⟨t, true⟩).isLE) : t = b.token := by
  have hplain : (compare ⟨t, false⟩ b).isLE := by
    rw [hlt]
    rfl
  have hbefore := isLE_token_of_isLE hplain
  have hafter := isLE_token_of_isLE hle
  exact Std.LawfulEqOrd.eq_of_compare (Std.OrientedCmp.isLE_antisymm hbefore hafter)

/-- In a list that ascends, a token and its negation are neighbours. -/
lemma hasTokenTwice_iff {ls : List Literal} (h : Ascends compare ls) :
    hasTokenTwice ls = true ↔ ¬ ConsistentLiterals ls := by
  fun_induction hasTokenTwice ls with
  | case1 a b ls ih =>
    obtain ⟨hhead, htail⟩ := List.pairwise_cons.1 h
    have hab : compare a b = .lt := hhead b List.mem_cons_self
    rw [Bool.or_eq_true, decide_eq_true_iff, ih htail]
    constructor
    · rintro (ht | hrest) hcons
      · obtain ⟨ha, hb⟩ := negated_of_lt hab ht
        refine hcons a.token ⟨?_, ?_⟩
        · rw [← ha]
          exact List.mem_cons_self
        · rw [← hb, ht]
          exact List.mem_cons_of_mem _ List.mem_cons_self
      · exact hrest fun t ⟨hf, ht⟩ =>
          hcons t ⟨List.mem_cons_of_mem _ hf, List.mem_cons_of_mem _ ht⟩
    · intro hcons
      by_contra hnot
      obtain ⟨hne, hrest⟩ := not_or.1 hnot
      refine hcons ?_
      rintro t ⟨hf, ht⟩
      rcases List.mem_cons.1 ht with rfl | ht'
      · -- the negated literal would come first
        have hlt := hhead _ ((List.mem_cons.1 hf).resolve_left (by simp))
        exact absurd (negated_of_lt hlt rfl).1 (by simp)
      · rcases List.mem_cons.1 hf with rfl | hf'
        · refine hne (token_eq_of_between hab ?_)
          rcases List.mem_cons.1 ht' with rfl | hrest'
          · rw [Std.compare_self]
            rfl
          · rw [(List.pairwise_cons.1 htail).1 _ hrest']
            rfl
        · exact not_not.1 hrest t ⟨hf', ht'⟩
  | case2 ls hshort =>
    rw [Bool.false_eq_true, false_iff, not_not]
    rintro t ⟨hf, ht⟩
    match ls, hshort with
    | [], _ => exact absurd hf List.not_mem_nil
    | [a], _ =>
      have := (List.mem_singleton.1 hf).trans (List.mem_singleton.1 ht).symm
      exact absurd this (by simp)
    | a :: b :: ls, hshort => exact hshort a b ls rfl

/-! ### Normalization -/

lemma consistentLiterals_congr {ls ms : List Literal} (h : ∀ l, l ∈ ls ↔ l ∈ ms) :
    ConsistentLiterals ls ↔ ConsistentLiterals ms := by
  simp only [ConsistentLiterals, h]

/-- Normalization gives the normal conjunction with the same literals and nothing else. -/
theorem ofLiterals?_eq_some_iff {ls : List Literal} {c : Conjunction} :
    ofLiterals? ls = some c ↔ c.Normal ∧ ∀ l, l ∈ c.literals ↔ l ∈ ls := by
  have hsame : ∀ l, l ∈ ascending ls ↔ l ∈ ls := fun l => mem_ascending
  have hasc := ascends_ascending ls
  rw [ofLiterals?]
  by_cases htwice : hasTokenTwice (ascending ls) = true
  · rw [if_pos htwice]
    refine ⟨fun h => absurd h (by simp), ?_⟩
    rintro ⟨hnormal, hmem⟩
    refine absurd ?_ ((hasTokenTwice_iff hasc).1 htwice)
    exact (consistentLiterals_congr fun l => (hmem l).trans (hsame l).symm).1 hnormal.consistent
  · rw [if_neg htwice, Option.some.injEq]
    have hcons : ConsistentLiterals (ascending ls) :=
      not_not.1 fun hnot => htwice ((hasTokenTwice_iff hasc).2 hnot)
    constructor
    · rintro rfl
      exact ⟨⟨hasc, hcons⟩, hsame⟩
    · rintro ⟨hnormal, hmem⟩
      refine Normal.eq_of_subset ⟨hasc, hcons⟩ hnormal ?_ ?_
      · intro l hl
        exact (hmem l).2 ((hsame l).1 hl)
      · intro l hl
        exact (hsame l).2 ((hmem l).1 hl)

/-- Consistent literals have a normal form. -/
lemma exists_ofLiterals? {ls : List Literal} (h : ConsistentLiterals ls) :
    ∃ c, ofLiterals? ls = some c := by
  have hasc := ascends_ascending ls
  have hcons := (consistentLiterals_congr fun l => (mem_ascending (l := ls)).symm).1 h
  have htwice : ¬ hasTokenTwice (ascending ls) = true := fun htwice =>
    (hasTokenTwice_iff hasc).1 htwice hcons
  exact ⟨⟨ascending ls⟩, by rw [ofLiterals?, if_neg htwice]⟩

/-! ### Absorption -/

lemma isSublist_iff_subset {as bs : List Literal} (ha : Ascends compare as)
    (hb : Ascends compare bs) : isSublist as bs = true ↔ as ⊆ bs := by
  fun_induction isSublist as bs with
  | case1 bs => simp
  | case2 a as => simp
  | case3 a as b bs hlt =>
    -- `a` comes before all of `b :: bs`
    rw [Bool.false_eq_true, false_iff]
    intro hsub
    rcases List.mem_cons.1 (hsub List.mem_cons_self) with rfl | hmem
    · exact Std.OrientedCmp.not_lt_of_lt hlt hlt
    · exact Std.OrientedCmp.not_lt_of_lt hlt ((List.pairwise_cons.1 hb).1 a hmem)
  | case4 a as b bs heq ih =>
    obtain rfl : a = b := Std.LawfulEqOrd.eq_of_compare heq
    rw [ih ha.tail hb.tail, List.cons_subset]
    constructor
    · intro hsub
      exact ⟨List.mem_cons_self, fun l hl => List.mem_cons_of_mem _ (hsub hl)⟩
    · rintro ⟨-, hsub⟩ l hl
      refine (List.mem_cons.1 (hsub hl)).resolve_left ?_
      rintro rfl
      exact ha.head_notMem hl
  | case5 a as b bs hgt ih =>
    -- `b` comes before all of `a :: as`
    have hba : compare b a = .lt := Std.OrientedCmp.gt_iff_lt.1 hgt
    have hnot : b ∉ a :: as := by
      intro hmem
      rcases List.mem_cons.1 hmem with rfl | hmem
      · exact Std.OrientedCmp.not_lt_of_lt hba hba
      · exact Std.OrientedCmp.not_lt_of_lt hba ((List.pairwise_cons.1 ha).1 b hmem)
    rw [ih ha hb.tail]
    constructor
    · exact fun hsub l hl => List.mem_cons_of_mem _ (hsub hl)
    · intro hsub l hl
      refine (List.mem_cons.1 (hsub hl)).resolve_left ?_
      rintro rfl
      exact hnot hl

lemma absorbs_iff_subset {c d : Conjunction} (hc : c.Normal) (hd : d.Normal) :
    c.absorbs d = true ↔ c.literals ⊆ d.literals :=
  isSublist_iff_subset hc.ascends hd.ascends

end Conjunction

end DocSearch.Query
