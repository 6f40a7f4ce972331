import DocSearch.Proofs.Ascending
import DocSearch.Query.Simplify

/-!
# Sorting literals and conjunctions

The normal forms of conjunctions and of queries are made by sorting and removing equal neighbours.
The outcome is strictly ascending and has the members it was given (`ascends_ascending`,
`mem_ascending`).

The orders at hand are those of literals, of conjunctions, and of conjunctions by length.
-/

namespace DocSearch.Query

variable {α : Type}

/-! ## Removing equal neighbours -/

lemma mem_dropRepeats [DecidableEq α] {a : α} {l : List α} : a ∈ dropRepeats l ↔ a ∈ l := by
  fun_induction dropRepeats l with
  | case1 => rfl
  | case2 b => rfl
  | case3 b l ih => simp [ih]
  | case4 b c l hne ih => rw [List.mem_cons, ih, ← List.mem_cons]

lemma dropRepeats_sublist [DecidableEq α] (l : List α) : (dropRepeats l).Sublist l := by
  fun_induction dropRepeats l with
  | case1 => exact List.Sublist.refl _
  | case2 a => exact List.Sublist.refl _
  | case3 a l ih => exact ih.cons a
  | case4 a b l _ ih => exact ih.cons_cons a

/-- In an ascending list equal members are neighbours. -/
lemma ascends_dropRepeats {cmp : α → α → Ordering} [DecidableEq α] [Std.TransCmp cmp]
    [Std.LawfulEqCmp cmp] {l : List α} (h : l.Pairwise fun a b => (cmp a b).isLE) :
    Ascends cmp (dropRepeats l) := by
  fun_induction dropRepeats l with
  | case1 => exact List.Pairwise.nil
  | case2 a => exact List.pairwise_singleton _ _
  | case3 a l ih => exact ih (List.pairwise_cons.1 h).2
  | case4 a b l hne ih =>
    obtain ⟨hhead, htail⟩ := List.pairwise_cons.1 h
    have hab : cmp a b = .lt := lt_of_isLE_of_ne (hhead b List.mem_cons_self)
      fun heq => hne (Std.LawfulEqCmp.eq_of_compare heq)
    refine List.Pairwise.cons ?_ (ih htail)
    intro c hc
    rcases List.mem_cons.1 (mem_dropRepeats.1 hc) with rfl | hc
    · exact hab
    · exact Std.TransCmp.lt_of_lt_of_isLE hab ((List.pairwise_cons.1 htail).1 c hc)

section Ascending

variable [Ord α] [DecidableEq α]

@[simp] lemma mem_ascending {a : α} {l : List α} : a ∈ ascending l ↔ a ∈ l := by
  rw [ascending, mem_dropRepeats, List.mem_mergeSort]

lemma length_ascending_le (l : List α) : (ascending l).length ≤ l.length := by
  have h := (dropRepeats_sublist (l.mergeSort fun a b => (compare a b).isLE)).length_le
  rwa [List.length_mergeSort] at h

variable [Std.TransOrd α] [Std.LawfulEqOrd α]

lemma ascends_ascending (l : List α) : Ascends compare (ascending l) :=
  ascends_dropRepeats (pairwise_isLE_mergeSort l)

end Ascending

/-! ## The orders of literals and conjunctions -/

instance : Std.TransOrd Literal :=
  inferInstanceAs (Std.TransCmp (compareLex (compareOn Literal.token) (compareOn Literal.negated)))

instance : Std.LawfulEqOrd Literal where
  eq_of_compare {a b} h := by
    obtain ⟨ht, hn⟩ := Ordering.then_eq_eq.1 h
    cases a
    cases b
    congr
    · exact Std.LawfulEqOrd.eq_of_compare ht
    · exact Std.LawfulEqOrd.eq_of_compare hn

instance : Std.TransOrd Conjunction :=
  inferInstanceAs (Std.TransCmp (compareOn Conjunction.literals))

instance : Std.LawfulEqOrd Conjunction where
  eq_of_compare {c d} h := by
    cases c
    cases d
    congr
    exact Std.LawfulEqOrd.eq_of_compare h

instance : Std.TransCmp compareByLength :=
  inferInstanceAs (Std.TransCmp (compareLex (compareOn fun c : Conjunction => c.literals.length)
    compare))

instance : Std.LawfulEqCmp compareByLength where
  eq_of_compare h := Std.LawfulEqOrd.eq_of_compare (Ordering.then_eq_eq.1 h).2

end DocSearch.Query
