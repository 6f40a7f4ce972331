import Mathlib.Data.Finset.Dedup
import Mathlib.Data.List.Pairwise
import Mathlib.Order.Minimal
import DocSearch.Query.Simplify
import DocSearch.Proofs.Query.Conjunction

/-!
# Absorption

The conjunctions left by `minimal` are normal, none of their sets of literals contains another one
(`eq_of_subset_of_mem_minimal`), and they are held by the same consistent valuations as the list
that was given (`any_heldBy_minimal`). These facts determine them, together with their order: two
lists that are held by the same consistent valuations have the same minimal conjunctions
(`minimal_congr`). As sets of literals they are the smallest ones of the list that do not contradict
themselves, all of these and each of them once (`minimal_exact`).

One pass suffices because the conjunctions are taken by length. What is kept is a part of the list
in its order, so of two conjunctions kept the later is not shorter, and a conjunction that contains
no longer one than itself equals it.
-/

namespace DocSearch.Query

/-! ## The pass over the list -/

section Pass

variable {kept cs : List Conjunction}

lemma absorbFrom_sublist : (absorbFrom kept cs).Sublist (kept.reverse ++ cs) := by
  fun_induction absorbFrom kept cs with
  | case1 kept => simp
  | case2 kept c cs habs ih =>
    exact ih.trans (List.Sublist.append_left (List.sublist_cons_self c cs) _)
  | case3 kept c cs habs ih => simpa using ih

lemma mem_absorbFrom_of_mem {c : Conjunction} (h : c ∈ kept) : c ∈ absorbFrom kept cs := by
  fun_induction absorbFrom kept cs with
  | case1 kept => exact List.mem_reverse.2 h
  | case2 kept c cs habs ih => exact ih h
  | case3 kept c cs habs ih => exact ih (List.mem_cons_of_mem c h)

/-- Whatever is left out is absorbed by a conjunction that is kept. -/
lemma exists_absorbs_of_mem (hself : ∀ c ∈ cs, c.absorbs c = true) {d : Conjunction}
    (hd : d ∈ cs) : ∃ c ∈ absorbFrom kept cs, c.absorbs d = true := by
  fun_induction absorbFrom kept cs with
  | case1 kept => exact absurd hd List.not_mem_nil
  | case2 kept c cs habs ih =>
    rcases List.mem_cons.1 hd with rfl | hd'
    · obtain ⟨k, hk, hkd⟩ := List.any_eq_true.1 habs
      exact ⟨k, mem_absorbFrom_of_mem hk, hkd⟩
    · exact ih (fun c hc => hself c (List.mem_cons_of_mem _ hc)) hd'
  | case3 kept c cs habs ih =>
    rcases List.mem_cons.1 hd with rfl | hd'
    · exact ⟨d, mem_absorbFrom_of_mem List.mem_cons_self, hself d List.mem_cons_self⟩
    · exact ih (fun c hc => hself c (List.mem_cons_of_mem _ hc)) hd'

/-- Nothing that is kept is absorbed by a conjunction kept before it. -/
lemma pairwise_absorbFrom (h : kept.reverse.Pairwise fun c d => ¬ c.absorbs d = true) :
    (absorbFrom kept cs).Pairwise fun c d => ¬ c.absorbs d = true := by
  fun_induction absorbFrom kept cs with
  | case1 kept => exact h
  | case2 kept c cs habs ih => exact ih h
  | case3 kept c cs habs ih =>
    refine ih ?_
    rw [List.reverse_cons, List.pairwise_append]
    refine ⟨h, List.pairwise_singleton _ c, ?_⟩
    intro k hk d hd hkd
    obtain rfl := List.mem_singleton.1 hd
    exact habs (List.any_eq_true.2 ⟨k, List.mem_reverse.1 hk, hkd⟩)

end Pass

/-! ## Minimal conjunctions -/

/-- The normal forms of the conjunctions of a list. -/
def normalForms (cs : List Conjunction) : List Conjunction :=
  cs.filterMap fun c => Conjunction.ofLiterals? c.literals

lemma mem_normalForms {cs : List Conjunction} {c : Conjunction} :
    c ∈ normalForms cs ↔ c.Normal ∧ ∃ d ∈ cs, ∀ l, l ∈ c.literals ↔ l ∈ d.literals := by
  simp only [normalForms, List.mem_filterMap, Conjunction.ofLiterals?_eq_some_iff]
  exact ⟨fun ⟨d, hd, hc, hmem⟩ => ⟨hc, d, hd, hmem⟩, fun ⟨hc, d, hd, hmem⟩ => ⟨d, hd, hc, hmem⟩⟩

/-- Neither conjunction contains the literals of the other one. -/
def Conjunction.Incomparable (c d : Conjunction) : Prop :=
  ¬ c.literals ⊆ d.literals ∧ ¬ d.literals ⊆ c.literals

instance : Std.Symm Conjunction.Incomparable := ⟨fun _ _ h => h.symm⟩

section Minimal

variable {cs : List Conjunction} {c d : Conjunction}

lemma minimal_sublist :
    (minimal cs).Sublist ((normalForms cs).mergeSort fun c d => (compareByLength c d).isLE) :=
  absorbFrom_sublist

lemma length_minimal_le (cs : List Conjunction) : (minimal cs).length ≤ cs.length := by
  have hsub : (minimal cs).Sublist _ := minimal_sublist
  have h := hsub.length_le
  rw [List.length_mergeSort] at h
  exact h.trans (List.length_filterMap_le _ _)

lemma mem_normalForms_of_mem_minimal (h : c ∈ minimal cs) : c ∈ normalForms cs :=
  List.mem_mergeSort.1 (minimal_sublist.subset h)

lemma normal_of_mem_minimal (h : c ∈ minimal cs) : c.Normal :=
  (mem_normalForms.1 (mem_normalForms_of_mem_minimal h)).1

/-- Every normal form contains a minimal conjunction. -/
lemma exists_minimal_subset (h : d ∈ normalForms cs) :
    ∃ c ∈ minimal cs, c.literals ⊆ d.literals := by
  have hself : ∀ e ∈ (normalForms cs).mergeSort fun c d => (compareByLength c d).isLE,
      e.absorbs e = true := by
    intro e he
    have hnormal := (mem_normalForms.1 (List.mem_mergeSort.1 he)).1
    exact (Conjunction.absorbs_iff_subset hnormal hnormal).2 (List.Subset.refl _)
  obtain ⟨c, hc, habs⟩ := exists_absorbs_of_mem hself (List.mem_mergeSort.2 h)
  exact ⟨c, hc, (Conjunction.absorbs_iff_subset (normal_of_mem_minimal hc)
    (mem_normalForms.1 h).1).1 habs⟩

lemma pairwise_minimal :
    (minimal cs).Pairwise fun c d => (compareByLength c d).isLE ∧ ¬ c.literals ⊆ d.literals := by
  have hle := List.Pairwise.sublist minimal_sublist
    (@pairwise_isLE_mergeSort _ compareByLength _ (normalForms cs))
  have habs : (minimal cs).Pairwise fun c d => ¬ c.absorbs d = true :=
    pairwise_absorbFrom List.Pairwise.nil
  refine List.Pairwise.imp_of_mem ?_ (hle.and habs)
  rintro c d hc hd ⟨hcd, hnot⟩
  refine ⟨hcd, fun hsub => hnot ?_⟩
  have hnormal := normal_of_mem_minimal hc
  exact (Conjunction.absorbs_iff_subset hnormal (normal_of_mem_minimal hd)).2 hsub

lemma ascends_minimal (cs : List Conjunction) : Ascends compareByLength (minimal cs) := by
  refine List.Pairwise.imp ?_ pairwise_minimal
  rintro c d ⟨hle, hnot⟩
  refine lt_of_isLE_of_ne hle ?_
  intro heq
  obtain rfl : c = d := Std.LawfulEqCmp.eq_of_compare heq
  exact hnot (List.Subset.refl _)

lemma length_le_of_compareByLength (h : (compareByLength c d).isLE) :
    c.literals.length ≤ d.literals.length := by
  rw [compareByLength] at h
  by_contra hlt
  rw [Nat.compare_eq_gt.2 (Nat.lt_of_not_le hlt)] at h
  exact Bool.false_ne_true h

lemma incomparable_minimal : (minimal cs).Pairwise Conjunction.Incomparable := by
  refine List.Pairwise.imp_of_mem ?_ pairwise_minimal
  rintro c d hc hd ⟨hle, hnot⟩
  refine ⟨hnot, fun hdc => hnot ?_⟩
  -- `d` is not shorter, so if it is contained in `c` it has all of its literals
  have hsubperm := List.subperm_of_subset (normal_of_mem_minimal hd).ascends.nodup hdc
  exact (hsubperm.perm_of_length_le (length_le_of_compareByLength hle)).symm.subset

/-- No minimal conjunction contains another one. -/
theorem eq_of_subset_of_mem_minimal (hc : c ∈ minimal cs) (hd : d ∈ minimal cs)
    (hsub : c.literals ⊆ d.literals) : c = d := by
  by_contra hne
  exact (incomparable_minimal.forall hc hd hne).1 hsub

/-- Absorption does not change which consistent valuations hold some conjunction. -/
theorem any_heldBy_minimal {v : Valuation} (hv : v.Consistent) (cs : List Conjunction) :
    (minimal cs).any (·.heldBy v) = cs.any (·.heldBy v) := by
  rw [Bool.eq_iff_iff, List.any_eq_true, List.any_eq_true]
  constructor
  · rintro ⟨c, hc, hheld⟩
    obtain ⟨-, d, hd, hmem⟩ := mem_normalForms.1 (mem_normalForms_of_mem_minimal hc)
    refine ⟨d, hd, Conjunction.heldBy_iff.2 fun l hl => ?_⟩
    exact Conjunction.heldBy_iff.1 hheld l ((hmem l).2 hl)
  · rintro ⟨d, hd, hheld⟩
    obtain ⟨n, hn⟩ := Conjunction.exists_ofLiterals? (Conjunction.consistent_of_heldBy hv hheld)
    have hmem := (Conjunction.ofLiterals?_eq_some_iff.1 hn).2
    obtain ⟨c, hc, hsub⟩ := exists_minimal_subset (List.mem_filterMap.2 ⟨d, hd, hn⟩)
    refine ⟨c, hc, Conjunction.heldBy_iff.2 fun l hl => ?_⟩
    exact Conjunction.heldBy_iff.1 hheld l ((hmem l).1 (hsub hl))

/-- The lists cannot be told apart by consistent valuations. -/
def HeldAlike (cs ds : List Conjunction) : Prop :=
  ∀ v : Valuation, v.Consistent → cs.any (·.heldBy v) = ds.any (·.heldBy v)

lemma HeldAlike.symm {ds : List Conjunction} (h : HeldAlike cs ds) : HeldAlike ds cs :=
  fun v hv => (h v hv).symm

/-- A minimal conjunction of the one list contains a minimal conjunction of the other. -/
lemma HeldAlike.exists_subset {ds : List Conjunction} (h : HeldAlike cs ds)
    (hc : c ∈ minimal cs) : ∃ d ∈ minimal ds, d.literals ⊆ c.literals := by
  have hv := Valuation.consistent_ofLiterals (normal_of_mem_minimal hc).consistent
  have hheld : (minimal cs).any (·.heldBy (.ofLiterals c.literals)) = true :=
    List.any_eq_true.2 ⟨c, hc, Conjunction.heldBy_ofLiterals.2 (List.Subset.refl _)⟩
  rw [any_heldBy_minimal hv, h _ hv, ← any_heldBy_minimal hv] at hheld
  obtain ⟨d, hd, hd'⟩ := List.any_eq_true.1 hheld
  exact ⟨d, hd, Conjunction.heldBy_ofLiterals.1 hd'⟩

lemma HeldAlike.mem_minimal {ds : List Conjunction} (h : HeldAlike cs ds)
    (hc : c ∈ minimal cs) : c ∈ minimal ds := by
  -- from `c` down to the other list and back again, where nothing but `c` itself is below `c`
  obtain ⟨d, hd, hdc⟩ := h.exists_subset hc
  obtain ⟨e, he, hed⟩ := h.symm.exists_subset hd
  obtain rfl := eq_of_subset_of_mem_minimal he hc (List.Subset.trans hed hdc)
  obtain rfl := (normal_of_mem_minimal hd).eq_of_subset (normal_of_mem_minimal hc) hdc hed
  exact hd

/-- The minimal conjunctions, in their order, depend on nothing but the consistent valuations that
hold some conjunction. -/
theorem minimal_congr {ds : List Conjunction} (h : HeldAlike cs ds) :
    minimal cs = minimal ds := by
  refine (ascends_minimal cs).eq_of_mem_iff (ascends_minimal ds) ?_
  intro c
  exact ⟨h.mem_minimal, h.symm.mem_minimal⟩

end Minimal

/-! ## Smallest sets of literals -/

/-- The literals of a conjunction, regardless of order and repetition. -/
def Conjunction.literalSet (c : Conjunction) : Finset Literal := c.literals.toFinset

/-- The set is that of the literals of a conjunction of the list that does not contradict itself. -/
def IsConsistentSet (cs : List Conjunction) (S : Finset Literal) : Prop :=
  ∃ c ∈ cs, ConsistentLiterals c.literals ∧ c.literalSet = S

section Smallest

variable {cs : List Conjunction} {c d : Conjunction} {S : Finset Literal}

lemma literalSet_subset_iff : c.literalSet ⊆ d.literalSet ↔ c.literals ⊆ d.literals := by
  simp [Conjunction.literalSet, Finset.subset_iff, List.subset_def]

lemma literalSet_eq_iff : c.literalSet = d.literalSet ↔ ∀ l, l ∈ c.literals ↔ l ∈ d.literals := by
  simp [Conjunction.literalSet, Finset.ext_iff]

/-- The consistent sets of literals are those of the normal forms. -/
lemma isConsistentSet_iff : IsConsistentSet cs S ↔ ∃ c ∈ normalForms cs, c.literalSet = S := by
  constructor
  · rintro ⟨d, hd, hcons, rfl⟩
    obtain ⟨c, hc⟩ := Conjunction.exists_ofLiterals? hcons
    refine ⟨c, List.mem_filterMap.2 ⟨d, hd, hc⟩, ?_⟩
    exact literalSet_eq_iff.2 (Conjunction.ofLiterals?_eq_some_iff.1 hc).2
  · rintro ⟨c, hc, rfl⟩
    obtain ⟨hnormal, d, hd, hmem⟩ := mem_normalForms.1 hc
    refine ⟨d, hd, ?_, (literalSet_eq_iff.2 hmem).symm⟩
    exact (Conjunction.consistentLiterals_congr hmem).1 hnormal.consistent

/-- Nothing in the list is smaller than a minimal conjunction. -/
lemma minimal_literalSet (hc : c ∈ minimal cs) : Minimal (IsConsistentSet cs) c.literalSet := by
  refine ⟨isConsistentSet_iff.2 ⟨c, mem_normalForms_of_mem_minimal hc, rfl⟩, ?_⟩
  intro T hT hle
  obtain ⟨d, hd, rfl⟩ := isConsistentSet_iff.1 hT
  -- what is kept in place of `d` is contained in `c`, so it is `c`
  obtain ⟨e, he, hed⟩ := exists_minimal_subset hd
  obtain rfl := eq_of_subset_of_mem_minimal he hc
    (List.Subset.trans hed (literalSet_subset_iff.1 hle))
  exact literalSet_subset_iff.2 hed

/-- Everything smallest in the list is kept. -/
lemma exists_minimal_of_smallest (h : Minimal (IsConsistentSet cs) S) :
    ∃ c ∈ minimal cs, c.literalSet = S := by
  obtain ⟨d, hd, rfl⟩ := isConsistentSet_iff.1 h.prop
  obtain ⟨c, hc, hcd⟩ := exists_minimal_subset hd
  have hle : c.literalSet ≤ d.literalSet := literalSet_subset_iff.2 hcd
  exact ⟨c, hc, h.eq_of_le (minimal_literalSet hc).prop hle⟩

lemma nodup_map_literalSet (cs : List Conjunction) :
    ((minimal cs).map Conjunction.literalSet).Nodup := by
  refine List.Nodup.map_on (fun c hc d hd heq => ?_) (ascends_minimal cs).nodup
  exact eq_of_subset_of_mem_minimal hc hd (literalSet_subset_iff.1 (Finset.subset_of_eq heq))

/-- **One pass finds all smallest sets of literals.** The conjunctions that are left have no literal
twice. Their sets of literals are, each exactly once, the sets that are smallest by inclusion among
those of the given conjunctions that have no token both plain and negated. -/
theorem minimal_exact (cs : List Conjunction) :
    (∀ c ∈ minimal cs, c.literals.Nodup) ∧ ((minimal cs).map Conjunction.literalSet).Nodup ∧
      ∀ S, S ∈ (minimal cs).map Conjunction.literalSet ↔ Minimal (IsConsistentSet cs) S := by
  refine ⟨fun c hc => (normal_of_mem_minimal hc).ascends.nodup, nodup_map_literalSet cs,
    fun S => ?_⟩
  rw [List.mem_map]
  constructor
  · rintro ⟨c, hc, rfl⟩
    exact minimal_literalSet hc
  · exact exists_minimal_of_smallest

theorem contained_and_contradictory_left_out :
    minimal [⟨[⟨"2", false⟩, ⟨"1", false⟩, ⟨"2", false⟩]⟩, ⟨[⟨"3", true⟩, ⟨"3", false⟩]⟩,
        ⟨[⟨"2", false⟩]⟩] = [⟨[⟨"2", false⟩]⟩] ∧
      [(⟨"2", false⟩ : Literal)].Nodup ∧
      Minimal (IsConsistentSet [⟨[⟨"2", false⟩, ⟨"1", false⟩, ⟨"2", false⟩]⟩,
          ⟨[⟨"3", true⟩, ⟨"3", false⟩]⟩, ⟨[⟨"2", false⟩]⟩])
        (Conjunction.literalSet ⟨[⟨"2", false⟩]⟩) := by
  have hleft : minimal [⟨[⟨"2", false⟩, ⟨"1", false⟩, ⟨"2", false⟩]⟩,
      ⟨[⟨"3", true⟩, ⟨"3", false⟩]⟩, ⟨[⟨"2", false⟩]⟩] = [⟨[⟨"2", false⟩]⟩] := by cbv
  obtain ⟨hnodup, -, hsmallest⟩ := minimal_exact [⟨[⟨"2", false⟩, ⟨"1", false⟩, ⟨"2", false⟩]⟩,
    ⟨[⟨"3", true⟩, ⟨"3", false⟩]⟩, ⟨[⟨"2", false⟩]⟩]
  rw [hleft] at hnodup hsmallest
  exact ⟨hleft, hnodup _ List.mem_cons_self, (hsmallest _).1 List.mem_cons_self⟩

end Smallest

end DocSearch.Query
