import Mathlib.Tactic.Lemma
import Std.Data.ExtTreeMap

/-!
# Outcomes, lists and maps

Facts about `Except`, lists and maps that every part of the theory uses and the library does not
have.
-/

namespace DocSearch

section Outcomes

variable {ε α β : Type}

lemma bind_eq_ok_iff {x : Except ε α} {f : α → Except ε β} {b : β} :
    x >>= f = .ok b ↔ ∃ a, x = .ok a ∧ f a = .ok b := by
  cases x with
  | error e => simp [bind, Except.bind]
  | ok a => simp [bind, Except.bind]

lemma bind_eq_error_iff {x : Except ε α} {f : α → Except ε β} {e : ε} :
    x >>= f = .error e ↔ x = .error e ∨ ∃ a, x = .ok a ∧ f a = .error e := by
  cases x with
  | error e' => simp [bind, Except.bind]
  | ok a => simp [bind, Except.bind]

lemma map_eq_ok_iff {x : Except ε α} {f : α → β} {b : β} :
    x.map f = .ok b ↔ ∃ a, x = .ok a ∧ f a = b := by
  cases x with
  | error e => simp [Except.map]
  | ok a => simp [Except.map]

lemma map_eq_error_iff {x : Except ε α} {f : α → β} {e : ε} :
    x.map f = .error e ↔ x = .error e := by
  cases x with
  | error e' => simp [Except.map]
  | ok a => simp [Except.map]

lemma mapM_congr_of_mem {μ : Type → Type} [Monad μ] [LawfulMonad μ] {f g : α → μ β} {l : List α}
    (h : ∀ a ∈ l, f a = g a) : l.mapM f = l.mapM g := by
  induction l with
  | nil => rfl
  | cons a l ih =>
    rw [List.mapM_cons, List.mapM_cons, h a List.mem_cons_self,
      ih fun b hb => h b (List.mem_cons_of_mem a hb)]

/-- Outcomes for the members of a list come to one for the list if all of them succeed. -/
lemma mapM_eq_ok_iff {f : α → Except ε β} {l : List α} {bs : List β} :
    l.mapM f = .ok bs ↔ l.map f = bs.map .ok := by
  induction l generalizing bs with
  | nil =>
    cases bs with
    | nil => simp [pure, Except.pure]
    | cons b bs => simp [pure, Except.pure]
  | cons a l ih =>
    rw [List.mapM_cons, bind_eq_ok_iff, List.map_cons]
    constructor
    · rintro ⟨b, hb, hrest⟩
      obtain ⟨bs', hbs, hpair⟩ := bind_eq_ok_iff.1 hrest
      obtain rfl := Except.ok.inj hpair
      rw [List.map_cons, hb, ih.1 hbs]
    · intro h
      obtain ⟨b, bs, rfl, hb, hbs⟩ := List.map_eq_cons_iff.1 h.symm
      exact ⟨b, hb.symm, bind_eq_ok_iff.2 ⟨bs, ih.2 hbs.symm, rfl⟩⟩

/-- The first failure is that of the list. -/
lemma mapM_eq_error_iff {f : α → Except ε β} {l : List α} {e : ε} :
    l.mapM f = .error e ↔ ∃ before a behind, l = before ++ a :: behind ∧
      (∀ x ∈ before, ∃ b, f x = .ok b) ∧ f a = .error e := by
  induction l with
  | nil => simp [pure, Except.pure]
  | cons a l ih =>
    rw [List.mapM_cons, bind_eq_error_iff]
    constructor
    · rintro (ha | ⟨b, hb, hrest⟩)
      · exact ⟨[], a, l, rfl, by simp, ha⟩
      · rcases bind_eq_error_iff.1 hrest with hl | ⟨bs, -, hpure⟩
        · obtain ⟨before, x, behind, rfl, hbefore, hx⟩ := ih.1 hl
          exact ⟨a :: before, x, behind, rfl, List.forall_mem_cons.2 ⟨⟨b, hb⟩, hbefore⟩, hx⟩
        · exact absurd hpure (by simp [pure, Except.pure])
    · rintro ⟨before, x, behind, hl, hbefore, hx⟩
      cases before with
      | nil =>
        obtain ⟨rfl, rfl⟩ := List.cons.inj hl
        exact .inl hx
      | cons y before =>
        obtain ⟨rfl, rfl⟩ := List.cons.inj hl
        obtain ⟨⟨b, hb⟩, hbefore⟩ := List.forall_mem_cons.1 hbefore
        exact .inr ⟨b, hb, bind_eq_error_iff.2 (.inl (ih.2 ⟨before, x, behind, rfl, hbefore, hx⟩))⟩

lemma exists_of_mapM_eq_some {f : α → Option β} {l : List α} {bs : List β}
    (h : l.mapM f = some bs) : ∀ a ∈ l, ∃ b, f a = some b := by
  induction l generalizing bs with
  | nil => simp
  | cons a l ih =>
    rw [List.mapM_cons] at h
    obtain ⟨b, hb, hrest⟩ := Option.bind_eq_some_iff.1 h
    obtain ⟨bs, hbs, -⟩ := Option.bind_eq_some_iff.1 hrest
    exact List.forall_mem_cons.2 ⟨⟨b, hb⟩, ih hbs⟩

end Outcomes

section Lists

variable {α : Type} {p q : α → Bool} {l : List α}

lemma any_congr_of_mem (h : ∀ a ∈ l, p a = q a) : l.any p = l.any q := by
  induction l with
  | nil => rfl
  | cons a l ih =>
    rw [List.any_cons, List.any_cons, h a List.mem_cons_self,
      ih fun b hb => h b (List.mem_cons_of_mem a hb)]

lemma all_congr_of_mem (h : ∀ a ∈ l, p a = q a) : l.all p = l.all q := by
  induction l with
  | nil => rfl
  | cons a l ih =>
    rw [List.all_cons, List.all_cons, h a List.mem_cons_self,
      ih fun b hb => h b (List.mem_cons_of_mem a hb)]

end Lists

section Maps

variable {κ ν : Type} [Ord κ] [Std.TransOrd κ] [Std.LawfulEqOrd κ] [BEq κ] [LawfulBEq κ]
  {m : Std.ExtTreeMap κ ν} {k : κ}

/-- Of several entries with the same key the last one counts. -/
lemma getElem?_foldl_insert (entries : List (κ × ν)) : ∀ m : Std.ExtTreeMap κ ν,
    (entries.foldl (fun m (k, v) => m.insert k v) m)[k]? = (entries.reverse.lookup k).or m[k]? := by
  induction entries with
  | nil => exact fun m => rfl
  | cons p entries ih =>
    intro m
    rw [List.foldl_cons, ih, List.reverse_cons, List.lookup_append, Option.or_assoc]
    congr 1
    rw [Std.ExtTreeMap.getElem?_insert, List.lookup_cons]
    by_cases h : k = p.1
    · simp [h]
    · have hbeq : (k == p.1) = false := beq_false_of_ne h
      simp [Ne.symm h, hbeq]

lemma lookup_eq_some_iff {l : List (κ × ν)} (hkeys : (l.map Prod.fst).Nodup) {v : ν} :
    l.lookup k = some v ↔ (k, v) ∈ l := by
  induction l with
  | nil => simp
  | cons p l ih =>
    obtain ⟨hp, hl⟩ := List.nodup_cons.1 hkeys
    rw [List.lookup_cons, List.mem_cons]
    by_cases h : k = p.1
    · subst h
      have hnot : (p.1, v) ∉ l := fun hmem => hp (List.mem_map.2 ⟨_, hmem, rfl⟩)
      simp [hnot, Prod.ext_iff, eq_comm]
    · have hbeq : (k == p.1) = false := beq_false_of_ne h
      simp [hbeq, ih hl, Prod.ext_iff, h]

/-- A map is made of its entries in any arrangement. -/
lemma foldl_insert_of_perm {entries : List (κ × ν)} (h : entries.Perm m.toList) :
    entries.foldl (fun m (k, v) => m.insert k v) ∅ = m := by
  have hkeys : (entries.reverse.map Prod.fst).Nodup := by
    rw [((entries.reverse_perm.trans h).map Prod.fst).nodup_iff,
      Std.ExtTreeMap.map_fst_toList_eq_keys]
    exact Std.ExtTreeMap.nodup_keys
  refine Std.ExtTreeMap.ext_getElem? fun k => Option.ext fun v => ?_
  rw [getElem?_foldl_insert, Std.ExtTreeMap.getElem?_empty, Option.or_none,
    lookup_eq_some_iff hkeys, List.mem_reverse, h.mem_iff,
    Std.ExtTreeMap.mem_toList_iff_getElem?_eq_some]

end Maps

end DocSearch
