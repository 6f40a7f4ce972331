import DocSearch.Proofs.Json.Value
import DocSearch.Json.Quoted
import DocSearch.Json.Record

/-!
# Reading what was written in JSON

A text written as a JSON string is read back (`value?_quote`), and so is a natural number written in
decimal digits (`value?_toDigits`, `word?_numeralOf`).
-/

namespace DocSearch.Json

variable {s r : List Char}

/-! ## Strings -/

lemma hexWord?_hexDigit : ∀ n < 0x20,
    hexWord? '0' '0' (hexDigit (n / 16)) (hexDigit (n % 16)) = some n := by
  decide

/-- The ways to write a character: a letter behind a backslash, a number, or itself. -/
lemma escape_cases (c : Char) :
    (∃ e, escape c = ['\\', e] ∧ e ≠ 'u' ∧ unescape? e = some c) ∨
      (escape c = ['\\', 'u', '0', '0', hexDigit (c.toNat / 16), hexDigit (c.toNat % 16)] ∧
        c.toNat < 0x20) ∨
      (escape c = [c] ∧ c ≠ '"' ∧ c ≠ '\\' ∧ 0x20 ≤ c.toNat) := by
  rw [escape]
  split
  · next h => exact Or.inl ⟨'"', rfl, by decide, congrArg some h.symm⟩
  split
  · next h => exact Or.inl ⟨'\\', rfl, by decide, congrArg some h.symm⟩
  split
  · next h => exact Or.inl ⟨'b', rfl, by decide, congrArg some h.symm⟩
  split
  · next h => exact Or.inl ⟨'f', rfl, by decide, congrArg some h.symm⟩
  split
  · next h => exact Or.inl ⟨'n', rfl, by decide, congrArg some h.symm⟩
  split
  · next h => exact Or.inl ⟨'r', rfl, by decide, congrArg some h.symm⟩
  split
  · next h => exact Or.inl ⟨'t', rfl, by decide, congrArg some h.symm⟩
  split
  · next h => exact Or.inr (Or.inl ⟨rfl, h⟩)
  · next hquote hback _ _ _ _ _ hcontrol =>
    exact Or.inr (Or.inr ⟨rfl, hquote, hback, Nat.le_of_not_lt hcontrol⟩)

/-- A character is read back as it is escaped. -/
lemma bare_quoted_escape (c : Char) (s : List Char) :
    bare (quoted (escape c ++ s)) = (bare (quoted s)).map fun (us, r) => (c.toNat :: us, r) := by
  rcases escape_cases c with ⟨e, hc, he, hx⟩ | ⟨hc, hlt⟩ | ⟨hc, hquote, hback, hle⟩
  · rw [hc]
    exact (bare_quoted_escaped he s).trans (by rw [hx, Option.bind_some])
  · rw [hc]
    exact (bare_quoted_code _ _ _ _ s).trans
      (by rw [hexWord?_hexDigit c.toNat hlt, Option.bind_some])
  · rw [hc]
    exact bare_quoted_plain hquote hback hle s

lemma bare_quoted_escaped_text (cs r : List Char) :
    bare (quoted (cs.flatMap escape ++ '"' :: r)) = some (cs.map Char.toNat, r) := by
  induction cs with
  | nil => exact bare_quoted_quote r
  | cons c cs ih =>
    rw [List.flatMap_cons, List.append_assoc, bare_quoted_escape, ih, Option.map_some,
      List.map_cons]

lemma isLead_toNat (c : Char) : isLead c.toNat = false := by
  have hvalid : c.toNat < 0xD800 ∨ (0xDFFF < c.toNat ∧ c.toNat < 0x110000) := c.valid
  rw [isLead, Bool.and_eq_false_iff, decide_eq_false_iff_not, decide_eq_false_iff_not]
  omega

lemma isTrail_toNat (c : Char) : isTrail c.toNat = false := by
  have hvalid : c.toNat < 0xD800 ∨ (0xDFFF < c.toNat ∧ c.toNat < 0x110000) := c.valid
  rw [isTrail, Bool.and_eq_false_iff, decide_eq_false_iff_not, decide_eq_false_iff_not]
  omega

lemma pairSurrogates_toNat (cs : List Char) : pairSurrogates (cs.map Char.toNat) = some cs := by
  induction cs with
  | nil => rfl
  | cons c cs ih =>
    cases cs with
    | nil => simp [pairSurrogates, isLead_toNat, isTrail_toNat]
    | cons d ds =>
      rw [List.map_cons] at ih
      simp [pairSurrogates, isLead_toNat, isTrail_toNat, ih]

lemma stringOf_toNat (s : String) : stringOf (s.toList.map Char.toNat) = some s := by
  rw [stringOf, pairSurrogates_toNat, Option.map_some, String.ofList_toList]

lemma skipBlank_of_not_blank {c : Char} (hc : isBlank c = false) (s : List Char) :
    skipBlank (c :: s) = c :: s :=
  List.dropWhile_cons_of_neg (by simp [hc])

lemma skipBlank_of_blank {c : Char} (hc : isBlank c = true) (s : List Char) :
    skipBlank (c :: s) = skipBlank s :=
  List.dropWhile_cons_of_pos hc

lemma toList_quote (s : String) (r : List Char) :
    (quote s).toList ++ r = '"' :: (s.toList.flatMap escape ++ '"' :: r) := by
  rw [quote, String.toList_ofList]
  simp

/-- A string is read back. -/
theorem value?_quote (s : String) (r : List Char) :
    bare (value? ((quote s).toList ++ r)) = some (.string (some s), r) := by
  rw [toList_quote, bare_value?]
  have hquote : isBlank '"' = false := rfl
  simp only [skipBlank_of_not_blank hquote, bare_quoted_escaped_text, Option.map_some,
    stringOf_toNat]

/-! ## Numbers -/

/-- The number is read as the digits that it is written with. -/
def numeralOf (n : Nat) : Numeral := ⟨false, Nat.toDigits 10 n, none, none⟩

lemma isDigit_of_mem_toDigits {n : Nat} {c : Char} (h : c ∈ Nat.toDigits 10 n) :
    isDigit c = true :=
  Nat.isDigit_of_mem_toDigits (by decide) (by decide) h

lemma decimal_toDigits (n : Nat) : decimal (Nat.toDigits 10 n) = n :=
  Nat.ofDigitChars_ten_toDigits

lemma natural?_numeralOf (n : Nat) : (numeralOf n).natural? = some n := by
  rw [numeralOf, Numeral.natural?, decimal_toDigits]

/-- No zero leads in a positive number that is written down. -/
lemma head?_toDigits (n : Nat) : 0 < n → (Nat.toDigits 10 n).head? ≠ some '0' := by
  induction n using Nat.strongRecOn with
  | ind n ih =>
    intro hn
    rw [Nat.toDigits_eq_if (by decide)]
    split
    · next hlt =>
      have hdigits : ∀ d < 10, 0 < d → [Nat.digitChar d].head? ≠ some '0' := by decide
      exact hdigits n hlt hn
    · next hle =>
      have hpos : 0 < n / 10 := Nat.div_pos (Nat.le_of_not_lt hle) (by decide)
      have hhead := ih (n / 10) (Nat.div_lt_self hn (by decide)) hpos
      obtain ⟨d, ds, hds⟩ :=
        List.exists_cons_of_ne_nil (Nat.toDigits_ne_nil (n := n / 10) (b := 10))
      rw [hds] at hhead ⊢
      exact hhead

lemma isInteger_cons {d : Char} (hd : d ≠ '0') (ds : List Char) : isInteger (d :: ds) = true := by
  unfold isInteger
  split
  · next h => exact absurd h (List.cons_ne_nil d ds)
  · next h => exact absurd (List.cons.inj h).1 hd
  · rfl

lemma isInteger_toDigits (n : Nat) : isInteger (Nat.toDigits 10 n) = true := by
  rcases Nat.eq_zero_or_pos n with rfl | hn
  · rfl
  · obtain ⟨d, ds, hds⟩ := List.exists_cons_of_ne_nil (Nat.toDigits_ne_nil (n := n) (b := 10))
    have hhead := head?_toDigits n hn
    rw [hds] at hhead ⊢
    exact isInteger_cons (fun hd => hhead (congrArg some hd)) ds

lemma isBlank_of_isDigit {d : Char} (hd : isDigit d = true) : isBlank d = false := by
  have hne : ∀ c : Char, isDigit c = false → d ≠ c := by
    rintro c hc rfl
    exact absurd hd (by simp [hc])
  simp [isBlank, hne ' ' rfl, hne '\t' rfl, hne '\n' rfl, hne '\r' rfl]

/-- A character that ends a number. -/
def EndsNumber (c : Char) : Prop := isDigit c = false ∧ c ≠ '.' ∧ c ≠ 'e' ∧ c ≠ 'E'

lemma takeWhile_toDigits {c : Char} (hc : isDigit c = false) (n : Nat) (r : List Char) :
    (Nat.toDigits 10 n ++ c :: r).takeWhile isDigit = Nat.toDigits 10 n := by
  rw [List.takeWhile_append_of_pos fun _ => isDigit_of_mem_toDigits,
    List.takeWhile_cons_of_neg (by simp [hc]), List.append_nil]

lemma dropWhile_toDigits {c : Char} (hc : isDigit c = false) (n : Nat) (r : List Char) :
    (Nat.toDigits 10 n ++ c :: r).dropWhile isDigit = c :: r := by
  rw [List.dropWhile_append_of_pos fun _ => isDigit_of_mem_toDigits,
    List.dropWhile_cons_of_neg (by simp [hc])]

lemma bare_unsigned?_toDigits {c : Char} (hc : EndsNumber c) (n : Nat) (r : List Char) :
    bare (unsigned? false (Nat.toDigits 10 n ++ c :: r)) = some (numeralOf n, c :: r) := by
  obtain ⟨hdigit, hpoint, he, hE⟩ := hc
  have hproper : ¬ (Nat.toDigits 10 n = [] ∨ isInteger (Nat.toDigits 10 n) = false) := by
    simp [Nat.toDigits_ne_nil, isInteger_toDigits]
  rw [bare_unsigned?, takeWhile_toDigits hdigit, dropWhile_toDigits hdigit, if_neg hproper,
    bare_fraction?_of_ne (by simp [hpoint])]
  simp only [Option.bind_some, bare_exponent?_of_ne (not_or.2 ⟨he, hE⟩), Option.map_some]
  rfl

/-- A natural number is read back. -/
theorem value?_toDigits {c : Char} (hc : EndsNumber c) (n : Nat) (r : List Char) :
    bare (value? (Nat.toDigits 10 n ++ c :: r)) = some (.number (numeralOf n), c :: r) := by
  have hnumber := bare_unsigned?_toDigits hc n r
  obtain ⟨d, ds, hds⟩ := List.exists_cons_of_ne_nil (Nat.toDigits_ne_nil (n := n) (b := 10))
  have hd : isDigit d = true := isDigit_of_mem_toDigits (hds ▸ List.mem_cons_self)
  rw [hds, List.cons_append] at hnumber ⊢
  have hblank := isBlank_of_isDigit hd
  have hminus : d ≠ '-' := by
    rintro rfl
    exact absurd hd (by decide)
  rw [bare_value?_numeral (skipBlank_of_not_blank hblank _) (Or.inr hd),
    numeral?_of_ne (by simp [hminus]), hnumber]
  rfl

lemma word?_numeralOf (n : UInt32) : Node.word? (.number (numeralOf n.toNat)) = some n := by
  rw [Node.word?, natural?_numeralOf]
  simp only [if_pos n.toNat_lt_size, Nat.toUInt32_eq, UInt32.ofNat_toNat]

/-! ## Members -/

section Members

variable {name : String} {k p q : List Char} {v : Node}

lemma value?_of_blank {c : Char} (hc : isBlank c = true) (s : List Char) :
    bare (value? (c :: s)) = bare (value? s) :=
  bare_value?_congr (skipBlank_of_blank hc s)

/-- A member that is followed by others is read back. -/
lemma bare_members?_cons {ms : List (Option String × Node)}
    (hs : skipBlank s = (quote name).toList ++ ':' :: k) (hv : bare (value? k) = some (v, p))
    (hp : skipBlank p = ',' :: q) (hq : bare (members? q) = some (ms, r)) :
    bare (members? s) = some ((some name, v) :: ms, r) := by
  have hcolon : isBlank ':' = false := rfl
  rw [bare_members?, hs, toList_quote]
  simp only [bare_quoted_escaped_text, Option.bind_some, skipBlank_of_not_blank hcolon, hv, hp, hq,
    Option.map_some, stringOf_toNat]

/-- The last member of an object is read back. -/
lemma bare_members?_last (hs : skipBlank s = (quote name).toList ++ ':' :: k)
    (hv : bare (value? k) = some (v, p)) (hp : skipBlank p = '\x7d' :: r) :
    bare (members? s) = some ([(some name, v)], r) := by
  have hcolon : isBlank ':' = false := rfl
  rw [bare_members?, hs, toList_quote]
  simp only [bare_quoted_escaped_text, Option.bind_some, skipBlank_of_not_blank hcolon, hv, hp,
    stringOf_toNat]

end Members

end DocSearch.Json
