import DocSearch.Proofs.Unicode.CodeRange
import DocSearch.Unicode.Alphabetic
import DocSearch.Unicode.Blank

/-!
# Letters, numbers and blanks

Of the ASCII characters the letters are the alphabetic ones (`isAlphanumeric_of_ascii`), and no
blank character is alphabetic or a number (`isAlphanumeric_of_isBlank`). Beyond ASCII there are
alphabetic characters that are not letters.
-/

namespace DocSearch.Unicode

open CodeRange

variable {c : Char}

/-! ## ASCII characters -/

/-- Which ASCII characters are letters of the English alphabet. -/
def english : List (CodeRange × Bool) :=
  [(⟨0, 0x40, 1⟩, false), (⟨0x41, 0x5A, 1⟩, true), (⟨0x5B, 0x60, 1⟩, false),
    (⟨0x61, 0x7A, 1⟩, true), (⟨0x7B, 0x7F, 1⟩, false)]

/-- The digits from 0 to 9. -/
def digit : CodeRange := ⟨0x30, 0x39, 1⟩

/-- Which ASCII characters are digits. -/
def digits : List (CodeRange × Bool) :=
  [(⟨0, 0x2F, 1⟩, false), (digit, true), (⟨0x3A, 0x7F, 1⟩, false)]

lemma settles_ascii : Settles letterRows english ∧ Settles alphabeticRows english ∧
    Settles numberRows digits ∧ Settles laterNumberRows [(⟨0, 0xFFFF, 1⟩, false)] := by
  refine ⟨?_, ?_, ?_, ?_⟩
  · apply Begins.intro
    · dsimp only [letterRows]
      apply Begins.row rfl
      exact .done _
    · decide +kernel
  · apply Begins.intro
    · dsimp only [alphabeticRows]
      apply Begins.row rfl
      exact .done _
    · decide +kernel
  · apply Begins.intro
    · dsimp only [numberRows]
      apply Begins.row rfl
      exact .done _
    · decide +kernel
  · apply Begins.intro
    · dsimp only [laterNumberRows]
      apply Begins.row rfl
      exact .done _
    · decide +kernel

lemma isLetter_of_english {q : CodeRange} {b : Bool} (hq : (q, b) ∈ english)
    (hc : q.Spans c.toNat) : isLetter c = b :=
  settles_ascii.1.anyContains hq hc

lemma isAlphabetic_of_english {q : CodeRange} {b : Bool} (hq : (q, b) ∈ english)
    (hc : q.Spans c.toNat) : isAlphabetic c = b :=
  settles_ascii.2.1.anyContains hq hc

lemma isNumber_of_digits {q : CodeRange} {b : Bool} (hq : (q, b) ∈ digits)
    (hc : q.Spans c.toNat) : isNumber c = b :=
  settles_ascii.2.2.1.anyContains hq hc

/-- The numbers that were encoded last lie outside of the basic plane. -/
lemma isLaterNumber_of_le (hc : c.toNat ≤ 0xFFFF) : isLaterNumber c = false :=
  settles_ascii.2.2.2.anyContains List.mem_cons_self ⟨Nat.zero_le _, hc⟩

lemma isAlphanumeric_of_digit (hc : digit.Spans c.toNat) : isAlphanumeric c = true := by
  have hnumber : isNumber c = true := isNumber_of_digits (by simp [digits]) hc
  rw [isAlphanumeric, hnumber, Bool.or_true, Bool.true_or]

/-- In the ASCII range letters and numbers are all that is alphanumeric. -/
theorem isAlphanumeric_of_ascii (hc : c.toNat < 128) :
    isAlphanumeric c = (isLetter c || isNumber c) := by
  have hall : ∀ n < 128, ∃ e ∈ english, e.1.Spans n := by
    decide
  obtain ⟨⟨q, b⟩, hq, hspans⟩ := hall c.toNat hc
  rw [isAlphanumeric, isLetter_of_english hq hspans, isAlphabetic_of_english hq hspans,
    isLaterNumber_of_le (by omega), Bool.or_false]

/-- No character in front of the digits is alphanumeric. -/
lemma isAlphanumeric_of_lt_digits (hc : c.toNat < 0x30) : isAlphanumeric c = false := by
  have hpunctuation : c.toNat ≤ 0x40 := by omega
  have hletter : isLetter c = false :=
    isLetter_of_english List.mem_cons_self ⟨Nat.zero_le _, hpunctuation⟩
  have hnumber : isNumber c = false :=
    isNumber_of_digits List.mem_cons_self ⟨Nat.zero_le _, Nat.le_of_lt_succ hc⟩
  rw [isAlphanumeric_of_ascii (by omega), hletter, hnumber, Bool.or_false]

/-! ## Blanks -/

/-- No blank character is in the table. -/
def noBlank : List (CodeRange × Bool) := blankRanges.map fun q => (q, false)

lemma settles_noBlank : Settles alphabeticRows noBlank ∧ Settles numberRows noBlank ∧
    Settles laterNumberRows noBlank := by
  refine ⟨?_, ?_, ?_⟩
  · apply Begins.intro
    · dsimp only [alphabeticRows]
      iterate 35 apply Begins.row rfl
      exact .done _
    · decide +kernel
  · apply Begins.intro
    · dsimp only [numberRows]
      iterate 6 apply Begins.row rfl
      exact .done _
    · decide +kernel
  · apply Begins.intro
    · dsimp only [laterNumberRows]
      apply Begins.row rfl
      exact .done _
    · decide +kernel

/-- No blank character is alphanumeric. -/
theorem isAlphanumeric_of_isBlank (hc : isBlank c = true) : isAlphanumeric c = false := by
  obtain ⟨hrows, hnumberRows, hlaterRows⟩ := settles_noBlank
  obtain ⟨q, hq, hspans⟩ := exists_of_anyContains hc
  have hmem : (q, false) ∈ noBlank := List.mem_map.2 ⟨q, hq, rfl⟩
  have halphabetic : isAlphabetic c = false := hrows.anyContains hmem hspans
  have hnumber : isNumber c = false := hnumberRows.anyContains hmem hspans
  have hlater : isLaterNumber c = false := hlaterRows.anyContains hmem hspans
  rw [isAlphanumeric, halphabetic, hnumber, hlater]
  rfl

end DocSearch.Unicode
