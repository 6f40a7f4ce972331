import DocSearch.Proofs.Text.Stem
import DocSearch.Proofs.Text.Words
import DocSearch.Proofs.Unicode.Devanagari
import DocSearch.Query.Token

/-!
# Words of queries and words of texts

A query is split into the longest runs of alphanumeric characters (`scan_eq`), a text into those of
letters and numbers. Both have the same words exactly if all alphanumeric characters of the text are
letters or numbers (`splits_alike_iff`). That is not so for all texts: the vowel signs of many
scripts are alphabetic and no letters, and a query that is written with them has words that no
document has (`scan_ne_of_vowelSign`, `vowel_sign_splits_word`).

The characters outside of ASCII tell the words apart, because they stay in the token when a word is
stemmed.
-/

namespace DocSearch.Query.Token

open Text Unicode

variable {a : Analyzer} {text word : String}

/-! ## Words of a query -/

/-- The words of a query without parentheses. -/
def queryWords (text : String) : List String := runs isAlphanumeric (normalize text)

/-- The text has no parenthesis, in its normal form. -/
def IsOpen (text : String) : Prop := '(' ∉ (normalize text).toList ∧ ')' ∉ (normalize text).toList

/-- No word of the query is an operator. -/
def HasNoOperator (text : String) : Prop := ∀ word ∈ queryWords text, word ∉ ["and", "or", "not"]

lemma isBlank_space : isBlank ' ' = true := by
  decide +kernel

/-- What is split at blanks has the words of the query between them. -/
lemma runs_spread (htext : IsOpen text) :
    runs (!isBlank ·) (String.ofList ((normalize text).toList.flatMap spread)) =
      queryWords text := by
  -- A character that is not alphanumeric is blank or becomes a space.
  have hopen : ∀ c ∈ (normalize text).toList, ¬ (c = '(' ∨ c = ')') := by
    rintro c hc (rfl | rfl)
    · exact htext.1 hc
    · exact htext.2 hc
  refine runs_ofList_flatMap (fun c hc hkeep => ?_) (fun c hc hgap => ?_)
  · have hblank : isBlank c = false := by
      rw [Bool.eq_false_iff]
      intro hblank
      rw [isAlphanumeric_of_isBlank hblank] at hkeep
      exact absurd hkeep (by simp)
    simp [spread, hopen c hc, hkeep, hblank]
  · cases hblank : isBlank c with
    | true => exact ⟨c, by simp [spread, hopen c hc, hblank], by simp [hblank]⟩
    | false => exact ⟨' ', by simp [spread, hopen c hc, hblank, hgap], by simp [isBlank_space]⟩

lemma ofWord?_of_mem (hwords : HasNoOperator text) (hword : word ∈ queryWords text) :
    ofWord? a [] word = some (.term (a.token word)) := by
  have hnot := hwords word hword
  simp only [List.mem_cons, List.not_mem_nil, or_false, not_or] at hnot
  have hopening : word ≠ "(" := by
    rintro rfl
    have h : isAlphanumeric '(' = true := (of_mem_runs hword (by simp)).2
    rw [isAlphanumeric_of_lt_digits (by decide)] at h
    exact absurd h (by simp)
  have hclosing : word ≠ ")" := by
    rintro rfl
    have h : isAlphanumeric ')' = true := (of_mem_runs hword (by simp)).2
    rw [isAlphanumeric_of_lt_digits (by decide)] at h
    exact absurd h (by simp)
  simp [ofWord?, hopening, hclosing, hnot]

/-- The tokens of a query are terms, one for each of its words. -/
theorem scan_eq (htext : IsOpen text) (hwords : HasNoOperator text) :
    scan a [] text = ((queryWords text).map a.token).map .term := by
  have hmap : ∀ words : List String, (∀ word ∈ words, word ∈ queryWords text) →
      words.filterMap (ofWord? a []) = (words.map a.token).map .term := by
    intro words hsubset
    induction words with
    | nil => rfl
    | cons word words ih =>
      obtain ⟨hword, hsubset⟩ := List.forall_mem_cons.1 hsubset
      rw [List.filterMap_cons_some (ofWord?_of_mem hwords hword), ih hsubset]
      rfl
  rw [scan, runs_spread htext]
  exact hmap _ fun word hword => hword

/-- The tokens of a text that keeps its stopwords. -/
lemma analyze_eq (a : Analyzer) (text : String) :
    Analyzer.analyze { a with removeStopwords := false } text = (words text).map a.token := by
  have hkeep : (words text).filter
      (fun word => !Analyzer.drops { a with removeStopwords := false } word) = words text :=
    List.filter_eq_self.2 fun word _ => rfl
  rw [Analyzer.analyze, hkeep]
  rfl

lemma scan_eq_analyze_iff (htext : IsOpen text) (hwords : HasNoOperator text) :
    scan a [] text = (Analyzer.analyze { a with removeStopwords := false } text).map .term ↔
      (queryWords text).map a.token = (words text).map a.token := by
  have hinj : Function.Injective Token.term := fun _ _ h => Token.term.inj h
  rw [scan_eq htext hwords, analyze_eq, (List.map_injective_iff.2 hinj).eq_iff]

/-! ## Digits -/

section Digits

variable {x y : Char} (hx : digit.Spans x.toNat) (hy : digit.Spans y.toNat)

include hx hy

lemma normalize_two_digits : normalize (String.ofList [x, ' ', y]) = String.ofList [x, ' ', y] := by
  refine normalize_eq_self fun c hc => isStable_of_le ?_
  have hdigit : ∀ d : Char, digit.Spans d.toNat → d.toNat ≤ 0x3B :=
    fun d hd => Nat.le_trans hd.2 (by decide)
  simp only [String.toList_ofList, List.mem_cons, List.not_mem_nil, or_false] at hc
  rcases hc with rfl | rfl | rfl
  · exact hdigit _ hx
  · decide
  · exact hdigit _ hy

lemma queryWords_two_digits :
    queryWords (String.ofList [x, ' ', y]) = [String.ofList [x], String.ofList [y]] := by
  rw [queryWords, normalize_two_digits hx hy, runs, String.toList_ofList]
  have hspace : isAlphanumeric ' ' = false := isAlphanumeric_of_lt_digits (by decide)
  simp [runsFrom, isAlphanumeric_of_digit hx, isAlphanumeric_of_digit hy, hspace]

/-- Two digits with a space between them are two terms. -/
lemma scan_two_digits : scan {} [] (String.ofList [x, ' ', y]) =
    [.term (String.ofList [x]), .term (String.ofList [y])] := by
  have hne : ∀ d p : Char, digit.Spans d.toNat → p.toNat < 0x30 → p ≠ d := by
    rintro d p hd hp rfl
    exact absurd hd.1 (Nat.not_le.2 hp)
  have htext : IsOpen (String.ofList [x, ' ', y]) := by
    rw [IsOpen, normalize_two_digits hx hy, String.toList_ofList]
    simp [hne x _ hx, hne y _ hy]
  have hwords : HasNoOperator (String.ofList [x, ' ', y]) := by
    -- Operators have more than one letter.
    have hletter : ∀ d : Char, String.ofList [d] ∉ ["and", "or", "not"] := by
      simp [← String.toList_inj]
    intro word hword
    rw [queryWords_two_digits hx hy, List.mem_cons, List.mem_singleton] at hword
    rcases hword with rfl | rfl
    · exact hletter x
    · exact hletter y
  rw [scan_eq htext hwords, queryWords_two_digits hx hy]
  rfl

end Digits

/-! ## Where the words differ -/

/-- Stemming or not, the foreign characters of a word are those of its token. -/
lemma filter_token (a : Analyzer) (word : String) :
    (a.token word).toList.filter isForeign = word.toList.filter isForeign := by
  rw [Analyzer.token]
  split
  · exact filter_stem word
  · rfl

/-- Tokens show which foreign characters the words have. -/
lemma filter_flatMap_token (a : Analyzer) (words : List String) :
    ((words.map a.token).flatMap String.toList).filter isForeign =
      (words.flatMap String.toList).filter isForeign := by
  induction words with
  | nil => rfl
  | cons word words ih =>
    rw [List.map_cons, List.flatMap_cons, List.flatMap_cons, List.filter_append,
      List.filter_append, filter_token, ih]

/-- Runs of characters with the same tokens are runs of the same foreign characters. -/
lemma eq_of_tokens_eq {p q : Char → Bool} {s : String} {c : Char}
    (h : (runs p s).map a.token = (runs q s).map a.token) (hc : c ∈ s.toList)
    (hforeign : isForeign c = true) : p c = q c := by
  have hfilter : (s.toList.filter p).filter isForeign = (s.toList.filter q).filter isForeign := by
    rw [← flatMap_runs, ← flatMap_runs, ← filter_flatMap_token a, h, filter_flatMap_token]
  have hiff : c ∈ (s.toList.filter p).filter isForeign ↔
      c ∈ (s.toList.filter q).filter isForeign := by
    rw [hfilter]
  simp only [List.mem_filter, hc, hforeign, true_and, and_true] at hiff
  exact Bool.eq_iff_iff.2 hiff

/-- Words have the same tokens exactly if they are runs of the same characters. -/
lemma tokens_eq_iff : (queryWords text).map a.token = (words text).map a.token ↔
    ∀ c ∈ (normalize text).toList, isAlphanumeric c = isWordChar c := by
  rw [queryWords, words]
  constructor
  · intro h c hc
    by_cases hascii : c.toNat < 128
    · exact isAlphanumeric_of_ascii hascii
    · have hforeign : isForeign c = true := by
        simpa [isForeign] using hascii
      exact eq_of_tokens_eq h hc hforeign
  · intro h
    rw [runs_congr h]

/-! ## Syllables -/

/-- The text consists of consonants and vowel signs. -/
def IsSyllabic (text : String) : Prop :=
  ∀ c ∈ text.toList, ∃ q ∈ Devanagari.blocks, q.Spans c.toNat

namespace IsSyllabic

lemma ofList {cs : List Char} (h : ∀ c ∈ cs, ∃ q ∈ Devanagari.blocks, q.Spans c.toNat) :
    IsSyllabic (String.ofList cs) := by
  rw [IsSyllabic, String.toList_ofList]
  exact h

lemma consonant {k : Char} (hk : Devanagari.consonants.Spans k.toNat) :
    IsSyllabic (String.ofList [k]) :=
  .ofList (by simpa [Devanagari.blocks] using Or.inl hk)

lemma syllable {k v : Char} (hk : Devanagari.consonants.Spans k.toNat)
    (hv : Devanagari.vowelSigns.Spans v.toNat) : IsSyllabic (String.ofList [k, v]) :=
  .ofList (by simpa [Devanagari.blocks] using ⟨Or.inl hk, Or.inr hv⟩)

lemma normalize_eq (h : IsSyllabic text) : normalize text = text := by
  refine normalize_eq_self fun c hc => ?_
  obtain ⟨q, hq, hspans⟩ := h c hc
  exact Devanagari.isStable_of_spans hq hspans

lemma not_ascii (h : IsSyllabic text) {c : Char} (hc : c ∈ text.toList) : 128 ≤ c.toNat := by
  obtain ⟨q, hq, hspans⟩ := h c hc
  have hblocks : ∀ q ∈ Devanagari.blocks, 128 ≤ q.first := by
    decide
  exact Nat.le_trans (hblocks q hq) hspans.1

lemma isOpen (h : IsSyllabic text) : IsOpen text := by
  rw [IsOpen, h.normalize_eq]
  constructor
  · exact fun hc => absurd (h.not_ascii hc) (by decide)
  · exact fun hc => absurd (h.not_ascii hc) (by decide)

lemma hasNoOperator (h : IsSyllabic text) : HasNoOperator text := by
  intro word hword hoperator
  have hforeign : ∀ c ∈ word.toList, 128 ≤ c.toNat := by
    intro c hc
    have hmem := (of_mem_runs hword hc).1
    rw [h.normalize_eq] at hmem
    exact h.not_ascii hmem
  simp only [List.mem_cons, List.not_mem_nil, or_false] at hoperator
  rcases hoperator with rfl | rfl | rfl
  · exact absurd (hforeign 'a' (by simp)) (by decide)
  · exact absurd (hforeign 'o' (by simp)) (by decide)
  · exact absurd (hforeign 'n' (by simp)) (by decide)

/-- The text is one word of a query. -/
lemma queryWords_eq (h : IsSyllabic text) (hne : text ≠ "") : queryWords text = [text] := by
  rw [queryWords, h.normalize_eq]
  refine runs_of_forall (fun c hc => ?_) hne
  obtain ⟨q, hq, hspans⟩ := h c hc
  exact Devanagari.isAlphanumeric_of_spans hq hspans

end IsSyllabic

/-- As a text, a consonant with a vowel sign is the consonant. -/
lemma words_syllable {k v : Char} (hk : Devanagari.consonants.Spans k.toNat)
    (hv : Devanagari.vowelSigns.Spans v.toNat) :
    words (String.ofList [k, v]) = [String.ofList [k]] := by
  have hletter : isWordChar k = true := Devanagari.isWordChar_of_consonant hk
  have hsign : isWordChar v = false := Devanagari.isWordChar_of_vowelSign hv
  rw [words, (IsSyllabic.syllable hk hv).normalize_eq, runs, String.toList_ofList]
  simp [runsFrom, hletter, hsign]

/-! ## Agreement -/

/-- **When queries and texts have the same words.** -/
theorem splits_alike_iff (a : Analyzer) (htext : IsOpen text) (hwords : HasNoOperator text) :
    scan a [] text =
        (Analyzer.analyze { a with removeStopwords := false } text).map Token.term ↔
      ∀ c ∈ (normalize text).toList, isAlphanumeric c = isWordChar c := by
  rw [scan_eq_analyze_iff htext hwords, tokens_eq_iff]

/-- A consonant alone is the same word for both. -/
theorem consonant_splits_alike : IsOpen "क" ∧ HasNoOperator "क" ∧ scan {} [] "क" =
    (Analyzer.analyze { removeStopwords := false } "क").map Token.term := by
  have hk : Devanagari.consonants.Spans 'क'.toNat := by
    decide
  have h : IsSyllabic "क" := .consonant hk
  refine ⟨h.isOpen, h.hasNoOperator, (splits_alike_iff {} h.isOpen h.hasNoOperator).2 ?_⟩
  intro c hc
  rw [h.normalize_eq] at hc
  obtain rfl : c = 'क' := by
    simpa using hc
  rw [Devanagari.isWordChar_of_consonant hk,
    Devanagari.isAlphanumeric_of_spans (q := Devanagari.consonants) (by decide) hk]

/-- A text that is written with vowel signs does not have the words of the same query. -/
theorem scan_ne_of_vowelSign (h : IsSyllabic text) {c : Char} (hc : c ∈ text.toList)
    (hsign : Devanagari.vowelSigns.Spans c.toNat) (a : Analyzer) :
    scan a [] text ≠ (Analyzer.analyze { a with removeStopwords := false } text).map .term := by
  rw [Ne, scan_eq_analyze_iff h.isOpen h.hasNoOperator, tokens_eq_iff, h.normalize_eq]
  intro hsame
  have halike := hsame c hc
  rw [Devanagari.isWordChar_of_vowelSign hsign,
    Devanagari.isAlphanumeric_of_spans (q := Devanagari.vowelSigns) (by decide) hsign] at halike
  exact absurd halike (by decide)

/-- The word for "that" is found in no text: a query keeps its vowel sign, the text does not. -/
theorem vowel_sign_splits_word : IsOpen "कि" ∧ HasNoOperator "कि" ∧
    scan {} [] "कि" = [.term "कि"] ∧
      (Analyzer.analyze { removeStopwords := false } "कि").map Token.term = [.term "क"] := by
  have hk : Devanagari.consonants.Spans 'क'.toNat := by
    decide
  have hv : Devanagari.vowelSigns.Spans '\u093F'.toNat := by
    decide
  have h : IsSyllabic "कि" := .syllable hk hv
  have hquery : queryWords "कि" = ["कि"] := h.queryWords_eq (by decide)
  have htext : words "कि" = ["क"] := words_syllable hk hv
  refine ⟨h.isOpen, h.hasNoOperator, ?_, ?_⟩
  · rw [scan_eq h.isOpen h.hasNoOperator, hquery]
    rfl
  · rw [analyze_eq {}, htext]
    rfl

end DocSearch.Query.Token
