import DocSearch.Proofs.Unicode.CodeRange
import DocSearch.Text.Words

/-!
# Texts in normal form

A text is its own normal form if each of its characters is left alone by every stage
(`normalize_eq_self`): it is not decomposed, it is a starter, it is the first of no composite, and
it is its own lowercase. That is so of all characters that the tables do not have
(`Untouched.isStable`).
-/

namespace DocSearch.Unicode

variable {c d : Char} {cs before : List Char} {text : String} {n : Nat}

/-- The character stays as it is in every text of such characters. -/
structure IsStable (c : Char) : Prop where
  /-- The character has no decomposition. -/
  decompose : decompose c = [c]
  /-- The character is a starter. -/
  combiningClass : combiningClass c = 0
  /-- The character composes with nothing behind it. -/
  compose? (d : Char) : compose? c d = none
  /-- The character has no lowercase of its own. -/
  lowercaseOf : lowercaseOf c = [c]
  /-- The lowercase of the character does not depend on its neighbours. -/
  ne_sigma : c ≠ 'Σ'

/-! ## The stages -/

lemma flatMap_decompose (h : ∀ c ∈ cs, IsStable c) : cs.flatMap decompose = cs := by
  induction cs with
  | nil => rfl
  | cons c cs ih =>
    obtain ⟨hc, hcs⟩ := List.forall_mem_cons.1 h
    rw [List.flatMap_cons, hc.decompose, ih hcs, List.singleton_append]

lemma insertMark_starter (ms : List (Char × Nat)) : insertMark (c, 0) ms = (c, 0) :: ms := by
  cases ms with
  | nil => rfl
  | cons m ms => rw [insertMark, if_neg (by omega)]

lemma orderMarks_of_stable (h : ∀ c ∈ cs, IsStable c) :
    orderMarks cs = cs.map fun c => (c, 0) := by
  induction cs with
  | nil => rfl
  | cons c cs ih =>
    obtain ⟨hc, hcs⟩ := List.forall_mem_cons.1 h
    have htail := ih hcs
    rw [orderMarks] at htail ⊢
    rw [List.foldr_cons, hc.combiningClass, htail, insertMark_starter, List.map_cons]

lemma composeAfter_of_stable (hc : IsStable c) (h : ∀ d ∈ cs, IsStable d) :
    composeAfter c [] 0 (cs.map fun d => (d, 0)) = c :: cs := by
  induction cs generalizing c with
  | nil => rfl
  | cons d cs ih =>
    obtain ⟨hd, hcs⟩ := List.forall_mem_cons.1 h
    rw [List.map_cons, composeAfter, hc.compose? d, ite_self]
    show c :: composeAfter d [] 0 _ = c :: d :: cs
    rw [ih hd hcs]

/-- Form KC leaves a text of stable characters alone. -/
theorem nfkc_eq_self (h : ∀ c ∈ text.toList, IsStable c) : nfkc text = text := by
  have hrecompose : recompose (orderMarks text.toList) = text.toList := by
    rw [orderMarks_of_stable h]
    cases htext : text.toList with
    | nil => rfl
    | cons c cs =>
      rw [htext] at h
      obtain ⟨hc, hcs⟩ := List.forall_mem_cons.1 h
      exact composeAfter_of_stable hc hcs
  rw [nfkc, flatMap_decompose h, hrecompose, String.ofList_toList]

lemma lowercaseFrom_of_stable (h : ∀ c ∈ cs, IsStable c) : lowercaseFrom before cs = cs := by
  induction cs generalizing before with
  | nil => rfl
  | cons c cs ih =>
    obtain ⟨hc, hcs⟩ := List.forall_mem_cons.1 h
    rw [lowercaseFrom, if_neg hc.ne_sigma, hc.lowercaseOf, ih hcs, List.singleton_append]

/-- A text of stable characters is in normal form. -/
theorem normalize_eq_self (h : ∀ c ∈ text.toList, IsStable c) : Text.normalize text = text := by
  rw [Text.normalize, nfkc_eq_self h, lowercase, lowercaseFrom_of_stable h, String.ofList_toList]

/-! ## Characters that no table has -/

lemma hangul_decompose?_of_lt (hc : c.toNat < 0x1100) : Hangul.decompose? c = none := by
  have hsyllable : ¬ Hangul.syllableBase ≤ c.toNat := by
    rw [Hangul.syllableBase]
    omega
  rw [Hangul.decompose?, if_neg fun h => hsyllable h.1]

lemma hangul_compose?_of_lt (hc : c.toNat < 0x1100) : Hangul.compose? c d = none := by
  have hleading : ¬ Hangul.leadingBase ≤ c.toNat := by
    rw [Hangul.leadingBase]
    omega
  have hsyllable : ¬ Hangul.syllableBase ≤ c.toNat := by
    rw [Hangul.syllableBase]
    omega
  rw [Hangul.compose?, if_neg fun h => hleading h.1, if_neg fun h => hsyllable h.1]

/-- The ranges are in no table that normalization uses. -/
structure Untouched (qs : List CodeRange) : Prop where
  decompositions : Assigned.Misses CodeRange.ofText codePoints decompositionRows qs
  classes : Assigned.Misses CodeRange.ofText codePoint combiningRows qs
  composites : MissesComposites qs
  lowercase : Assigned.Misses CodeRange.ofText codePoint lowercaseRows qs

/-- What no table has is stable. The bound leaves out the Hangul blocks. -/
theorem Untouched.isStable {qs : List CodeRange} (h : Untouched qs) {q : CodeRange} (hq : q ∈ qs)
    (hc : q.Spans c.toNat) (hlt : c.toNat < 0x1100) (hdotted : c.toNat ≠ 0x130)
    (hsigma : c ≠ 'Σ') : IsStable c where
  decompose := by
    have hfind : Assigned.find? decompositionEntries c.toNat = none :=
      h.decompositions.find? hq hc
    rw [Unicode.decompose, hangul_decompose?_of_lt hlt, hfind]
  combiningClass := by
    have hfind : Assigned.find? combiningEntries c.toNat = none := h.classes.find? hq hc
    rw [Unicode.combiningClass, hfind]
  compose? := by
    intro d
    have hfind : findComposite c.toNat d.toNat compositionEntries = none :=
      h.composites.findComposite hq hc d.toNat
    rw [Unicode.compose?, hangul_compose?_of_lt hlt, hfind]
    rfl
  lowercaseOf := by
    have hfind : Assigned.find? lowercaseEntries c.toNat = none := h.lowercase.find? hq hc
    rw [Unicode.lowercaseOf, if_neg hdotted, hfind]
  ne_sigma := hsigma

/-! ## Digits -/

lemma untouched_digits : Untouched [⟨0, 0x3B, 1⟩] := by
  constructor
  · apply Begins.intro
    · dsimp only [decompositionRows]
      apply Begins.row rfl
      exact .done _
    · decide +kernel
  · apply Begins.intro
    · dsimp only [combiningRows]
      apply Begins.row rfl
      exact .done _
    · decide +kernel
  · apply Begins.intro
    · dsimp only [compositionRows]
      apply Begins.row rfl
      exact .done _
    · decide +kernel
  · apply Begins.intro
    · dsimp only [lowercaseRows]
      apply Begins.row rfl
      exact .done _
    · decide +kernel

/-- Normalization leaves the digits as they are, and the characters in front of them. -/
lemma isStable_of_le (hc : c.toNat ≤ 0x3B) : IsStable c := by
  refine untouched_digits.isStable List.mem_cons_self ⟨Nat.zero_le _, hc⟩ (by omega) (by omega) ?_
  rintro rfl
  exact absurd hc (by decide)

end DocSearch.Unicode
