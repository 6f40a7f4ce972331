import Mathlib.Data.List.Permutation
import Mathlib.Tactic.Lemma

/-!
# Strictly ascending lists

The literals of a conjunction, the conjunctions of a normal form and the entries of a ranking stand
in strictly ascending order, each with respect to an order of its own. Such a list is determined by
its members (`Ascends.eq_of_mem_iff`), and sorting a list without equal members produces one
(`ascends_mergeSort`).
-/

namespace DocSearch

variable {α : Type}

/-- Every member of the list comes before all members behind it. -/
def Ascends (cmp : α → α → Ordering) (l : List α) : Prop :=
  l.Pairwise fun a b => cmp a b = .lt

namespace Ascends

variable {cmp : α → α → Ordering} {l m : List α}

lemma nodup [Std.ReflCmp cmp] (h : Ascends cmp l) : l.Nodup := by
  refine List.Pairwise.imp ?_ h
  rintro a b hab rfl
  have haa : cmp a a = .eq := Std.ReflCmp.compare_self
  exact absurd (haa.symm.trans hab) (by decide)

lemma head_notMem [Std.ReflCmp cmp] {a : α} (h : Ascends cmp (a :: l)) : a ∉ l :=
  (List.nodup_cons.1 h.nodup).1

/-- A strictly ascending list is determined by its members. -/
lemma eq_of_mem_iff [Std.OrientedCmp cmp] (hl : Ascends cmp l) (hm : Ascends cmp m)
    (h : ∀ a, a ∈ l ↔ a ∈ m) : l = m := by
  refine List.Perm.eq_of_pairwise ?_ hl hm ?_
  · intro a b _ _ hab hba
    exact absurd hba (Std.OrientedCmp.not_lt_of_lt hab)
  · exact (List.perm_ext_iff_of_nodup hl.nodup hm.nodup).2 h

end Ascends

section Sorting

variable {cmp : α → α → Ordering}

lemma lt_of_isLE_of_ne {a b : α} (hle : (cmp a b).isLE) (hne : cmp a b ≠ .eq) :
    cmp a b = .lt := by
  rcases hc : cmp a b with _ | _ | _
  · rfl
  · exact absurd hc hne
  · simp [hc] at hle

variable [Std.TransCmp cmp]

lemma pairwise_isLE_mergeSort (l : List α) :
    (l.mergeSort fun a b => (cmp a b).isLE).Pairwise fun a b => (cmp a b).isLE := by
  refine List.pairwise_mergeSort ?_ ?_ l
  · intro a b c
    exact Std.TransCmp.isLE_trans
  · intro a b
    have hswap : cmp b a = (cmp a b).swap := Std.OrientedCmp.eq_swap
    rw [hswap]
    cases cmp a b <;> rfl

/-- Sorting makes a list strictly ascending if no two of its members are equal in the order. -/
lemma ascends_mergeSort {l : List α} (h : l.Pairwise fun a b => cmp a b ≠ .eq) :
    Ascends cmp (l.mergeSort fun a b => (cmp a b).isLE) := by
  have hne : (l.mergeSort fun a b => (cmp a b).isLE).Pairwise fun a b => cmp a b ≠ .eq := by
    refine (List.mergeSort_perm l _).symm.pairwise h ?_
    intro a b hab hba
    exact hab (Std.OrientedCmp.eq_symm hba)
  refine List.Pairwise.imp₂ ?_ (pairwise_isLE_mergeSort l) hne
  intro a b hle hab
  exact lt_of_isLE_of_ne hle hab

end Sorting

end DocSearch
