import DocSearch.Text.Stem
import Mathlib.Data.List.Basic

/-!
# Stems keep foreign letters

All that stemming takes away or puts in its place are letters of the English alphabet. The
characters beyond the ASCII range that a word has are those of its stem, in the same order
(`filter_stem`).
-/

namespace DocSearch.Text

/-- The character is not in the ASCII range. -/
def isForeign (c : Char) : Bool := 128 ≤ c.toNat

namespace Stem

variable {w rest : List Char} {suffix : String} {rules : List Rule} {r : Rule} {g : Regions}

/-- The text has no foreign character. -/
def IsPlain (s : String) : Prop := s.toList.filter isForeign = []

instance (s : String) : Decidable (IsPlain s) :=
  inferInstanceAs (Decidable (s.toList.filter isForeign = []))

lemma filter_backward {s : String} (hs : IsPlain s) : (backward s).filter isForeign = [] := by
  rw [backward, List.filter_reverse, hs, List.reverse_nil]

/-- A plain letter in front does not count. -/
lemma filter_cons_plain {c : Char} (hc : isForeign c = false) :
    (c :: w).filter isForeign = w.filter isForeign :=
  List.filter_cons_of_neg (by simp [hc])

/-! ## Suffixes -/

/-- The rule takes away and puts in place nothing but plain letters. -/
def Rule.IsPlain (r : Rule) : Prop := Stem.IsPlain r.suffix ∧ Stem.IsPlain r.replacement

instance (r : Rule) : Decidable r.IsPlain :=
  inferInstanceAs (Decidable (_ ∧ _))

lemma filter_without (hsuffix : IsPlain suffix) (h : without? suffix w = some rest) :
    rest.filter isForeign = w.filter isForeign := by
  rw [without?, List.isPrefixOf?_eq_some_iff_append_eq] at h
  rw [← h, List.filter_append, filter_backward hsuffix, List.nil_append]

lemma filter_longest (h : longest? rules w = some (r, rest)) (hrules : ∀ r ∈ rules, r.IsPlain) :
    r.IsPlain ∧ rest.filter isForeign = w.filter isForeign := by
  obtain ⟨r', hr', hsome⟩ := List.exists_of_findSome?_eq_some h
  obtain ⟨rest', hrest', hpair⟩ := Option.map_eq_some_iff.1 hsome
  obtain ⟨rfl, rfl⟩ := Prod.mk.inj hpair
  exact ⟨hrules _ hr', filter_without (hrules _ hr').1 hrest'⟩

lemma filter_applyRules (hrules : ∀ r ∈ rules, r.IsPlain) (start : Nat) (w : List Char) :
    (applyRules rules start w).filter isForeign = w.filter isForeign := by
  rw [applyRules]
  split
  · next r rest h =>
    obtain ⟨hr, hrest⟩ := filter_longest h hrules
    split
    · rw [List.filter_append, filter_backward hr.2, List.nil_append, hrest]
    · rfl
  · rfl

lemma isPlain_derivationRules : ∀ r ∈ derivationRules, r.IsPlain := by
  decide

lemma isPlain_adjectiveRules (g : Regions) : ∀ r ∈ adjectiveRules g, r.IsPlain := by
  simp only [adjectiveRules, List.forall_mem_cons, Rule.IsPlain]
  decide

lemma isPlain_droppedRules : ∀ r ∈ droppedRules, r.IsPlain := by
  decide

/-! ## Steps -/

lemma filter_dropPossessive (w : List Char) :
    (dropPossessive w).filter isForeign = w.filter isForeign := by
  rw [dropPossessive]
  cases h : ["'s'", "'s", "'"].findSome? fun s => without? s w with
  | none => rfl
  | some rest =>
    obtain ⟨s, hs, hrest⟩ := List.exists_of_findSome?_eq_some h
    have hplain : ∀ s ∈ ["'s'", "'s", "'"], IsPlain s := by decide
    exact filter_without (hplain s hs) hrest

lemma filter_stepPlural (w : List Char) :
    (stepPlural w).filter isForeign = w.filter isForeign := by
  rw [stepPlural.eq_def]
  split
  · rfl
  · split <;> rfl
  · split <;> rfl
  · rfl
  · rfl
  · split <;> rfl
  · rfl

lemma isForeign_of_mem_undoubled : ∀ c ∈ undoubled, isForeign c = false := by
  simp [undoubled, isForeign]

lemma filter_mend (g : Regions) (w : List Char) :
    (mend g w).filter isForeign = w.filter isForeign := by
  rw [mend.eq_def]
  split
  · rfl
  · rfl
  · rfl
  · next c d rest _ _ _ =>
    split
    · next h =>
      obtain ⟨rfl, hc⟩ := h
      exact (filter_cons_plain (isForeign_of_mem_undoubled c hc)).symm
    · split <;> rfl
  · rfl

lemma filter_stepPast (g : Regions) (w : List Char) :
    (stepPast g w).filter isForeign = w.filter isForeign := by
  have hrules : ∀ r ∈ ["eedly", "ingly", "edly", "eed", "ing", "ed"].map
      fun s => ({ suffix := s, replacement := "" } : Rule), r.IsPlain := by decide
  rw [stepPast]
  split
  · next r rest h =>
    obtain ⟨-, hrest⟩ := filter_longest h hrules
    split
    · split
      · exact hrest
      · rfl
    · split
      · rw [filter_mend, hrest]
      · rfl
  · rfl

lemma filter_stepY (w : List Char) : (stepY w).filter isForeign = w.filter isForeign := by
  rw [stepY.eq_def]
  split
  · next c d e rest =>
    split
    · next h =>
      have hc : isForeign c = false := by
        rcases h.1 with rfl | rfl <;> rfl
      rw [filter_cons_plain hc, filter_cons_plain rfl]
    · rfl
  · rfl

lemma filter_stepFinal (g : Regions) (w : List Char) :
    (stepFinal g w).filter isForeign = w.filter isForeign := by
  rw [stepFinal.eq_def]
  split
  · split <;> rfl
  · split <;> rfl
  · rfl

lemma filter_reduce (g : Regions) (w : List Char) :
    (reduce g w).filter isForeign = w.filter isForeign := by
  rw [reduce]
  split
  · rfl
  · rw [filter_stepFinal, filter_applyRules isPlain_droppedRules,
      filter_applyRules (isPlain_adjectiveRules g), filter_applyRules isPlain_derivationRules,
      filter_stepY, filter_stepPast]

/-! ## Words -/

lemma filter_markY (consonantal : Bool) (w : List Char) :
    (markY consonantal w).filter isForeign = w.filter isForeign := by
  induction w generalizing consonantal with
  | nil => rfl
  | cons c w ih =>
    rw [markY]
    split
    · next h =>
      obtain ⟨rfl, -⟩ := h
      rw [filter_cons_plain rfl, filter_cons_plain rfl, ih]
    · rw [List.filter_cons, List.filter_cons, ih]

/-- Consonantal `y` is written as usual again. -/
lemma filter_map_unmarkY (w : List Char) :
    (w.map fun c => if c = 'Y' then 'y' else c).filter isForeign = w.filter isForeign := by
  induction w with
  | nil => rfl
  | cons c w ih =>
    rw [List.map_cons]
    by_cases hc : c = 'Y'
    · rw [if_pos hc, hc, filter_cons_plain rfl, filter_cons_plain rfl, ih]
    · rw [if_neg hc, List.filter_cons, List.filter_cons, ih]

lemma filter_regular (word : List Char) :
    (regular word).filter isForeign = word.filter isForeign := by
  have hplain : (if word.head? = some '\'' then word.drop 1 else word).filter isForeign =
      word.filter isForeign := by
    split
    · next h =>
      obtain ⟨rest, rfl⟩ := List.head?_eq_some_iff.1 h
      rfl
    · rfl
  rw [← hplain, regular]
  generalize (if word.head? = some '\'' then word.drop 1 else word) = plain
  have hstem : (reduce (Regions.ofWord (markY true plain))
      (stepPlural (dropPossessive (markY true plain).reverse))).reverse.filter isForeign =
        plain.filter isForeign := by
    rw [List.filter_reverse, filter_reduce, filter_stepPlural, filter_dropPossessive,
      List.filter_reverse, List.reverse_reverse, filter_markY]
  split
  · exact hstem
  · rw [filter_map_unmarkY]
    exact hstem

lemma isPlain_irregular : ∀ p ∈ irregular, IsPlain p.1 ∧ IsPlain p.2 := by
  decide

end Stem

/-- **A stem has the foreign characters of its word.** -/
theorem filter_stem (word : String) :
    (stem word).toList.filter isForeign = word.toList.filter isForeign := by
  simp only [stem]
  split
  · next s h =>
    obtain ⟨before, behind, heq, -⟩ := List.lookup_eq_some_iff.1 h
    have hmem : (word, s) ∈ Stem.irregular := by
      rw [heq]
      exact List.mem_append_right _ List.mem_cons_self
    obtain ⟨hword, hs⟩ := Stem.isPlain_irregular _ hmem
    exact hs.trans hword.symm
  · split
    · rfl
    · rw [String.toList_ofList, Stem.filter_regular]

end DocSearch.Text
