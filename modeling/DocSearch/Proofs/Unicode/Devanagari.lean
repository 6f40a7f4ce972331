import DocSearch.Proofs.Unicode.Alphanumeric
import DocSearch.Proofs.Unicode.Normalization

/-!
# Consonants and vowel signs

In Devanagari, as in most scripts of India, a vowel is a sign that is written on a consonant. Both
are alphabetic, and no stage of normalization changes them, but only the consonant is a letter. The
ranges leave out the consonants that a dot can be composed with.
-/

namespace DocSearch.Unicode.Devanagari

open CodeRange

variable {c : Char} {q : CodeRange}

/-- The consonants from ka to dha. -/
def consonants : CodeRange := ⟨0x915, 0x927, 1⟩

/-- The vowel signs from aa to au. -/
def vowelSigns : CodeRange := ⟨0x93E, 0x94C, 1⟩

/-- What syllables are made of. -/
def blocks : List CodeRange := [consonants, vowelSigns]

/-! ## Letters -/

lemma settles_blocks :
    Settles alphabeticRows (blocks.map fun q => (q, true)) ∧
      Settles letterRows [(consonants, true), (vowelSigns, false)] ∧
      Settles numberRows [(vowelSigns, false)] := by
  refine ⟨?_, ?_, ?_⟩
  · apply Begins.intro
    · dsimp only [alphabeticRows]
      iterate 7 apply Begins.row rfl
      exact .done _
    · decide +kernel
  · apply Begins.intro
    · dsimp only [letterRows]
      iterate 6 apply Begins.row rfl
      exact .done _
    · decide +kernel
  · apply Begins.intro
    · dsimp only [numberRows]
      apply Begins.row rfl
      exact .done _
    · decide +kernel

/-- Consonants and vowel signs are alphabetic. -/
lemma isAlphanumeric_of_spans (hq : q ∈ blocks) (hc : q.Spans c.toNat) :
    isAlphanumeric c = true := by
  have hmem : (q, true) ∈ blocks.map fun q => (q, true) := List.mem_map.2 ⟨q, hq, rfl⟩
  have halphabetic : isAlphabetic c = true := settles_blocks.1.anyContains hmem hc
  rw [isAlphanumeric, halphabetic, Bool.true_or, Bool.true_or]

/-- Consonants are letters. -/
lemma isWordChar_of_consonant (hc : consonants.Spans c.toNat) : Text.isWordChar c = true := by
  have hletter : isLetter c = true := settles_blocks.2.1.anyContains (by simp) hc
  rw [Text.isWordChar, hletter, Bool.true_or]

/-- Vowel signs are neither letters nor numbers. -/
lemma isWordChar_of_vowelSign (hc : vowelSigns.Spans c.toNat) : Text.isWordChar c = false := by
  obtain ⟨-, hletterRows, hnumberRows⟩ := settles_blocks
  have hletter : isLetter c = false := hletterRows.anyContains (by simp) hc
  have hnumber : isNumber c = false := hnumberRows.anyContains (by simp) hc
  rw [Text.isWordChar, hletter, hnumber, Bool.or_false]

/-! ## Normal form -/

lemma untouched_blocks : Untouched blocks := by
  constructor
  · apply Begins.intro
    · dsimp only [decompositionRows]
      iterate 71 apply Begins.row rfl
      exact .done _
    · decide +kernel
  · apply Begins.intro
    · dsimp only [combiningRows]
      iterate 17 apply Begins.row rfl
      exact .done _
    · decide +kernel
  · apply Begins.intro
    · dsimp only [compositionRows]
      iterate 109 apply Begins.row rfl
      exact .done _
    · decide +kernel
  · apply Begins.intro
    · dsimp only [lowercaseRows]
      iterate 12 apply Begins.row rfl
      exact .done _
    · decide +kernel

/-- Normalization leaves consonants and vowel signs as they are. -/
theorem isStable_of_spans (hq : q ∈ blocks) (hc : q.Spans c.toNat) : IsStable c := by
  have hblocks : ∀ q ∈ blocks, 0x900 < q.first ∧ q.last < 0x1000 := by
    decide
  obtain ⟨hfirst, hlast⟩ := hblocks q hq
  have hlarge : 0x900 < c.toNat := Nat.lt_of_lt_of_le hfirst hc.1
  have hsmall : c.toNat < 0x1000 := Nat.lt_of_le_of_lt hc.2 hlast
  refine untouched_blocks.isStable hq hc (by omega) (by omega) ?_
  rintro rfl
  exact absurd hlarge (by decide)

end DocSearch.Unicode.Devanagari
