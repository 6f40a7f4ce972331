import DocSearch.Proofs.Query.Recognition

/-!
# Operands without an operator

Two operands that follow each other directly are read as if `and` stood between them. This adds to
the grammar and changes nothing in it: tokens that have a derivation stay as they are, and if some
of their `and` are omitted, exactly these are put back (`Grammar.joinOperands_conservative`).

What matters is which tokens stand next to each other. In a derivation no operand follows another
one directly, and `and` stands only where an operand ends before it and one begins behind it
(`Joined`); this is shown along the derivation. Whatever has this form is restored, whichever of its
`and` have been omitted, in one pass from the left (`joinFrom_of_abbreviates`).
-/

namespace DocSearch.Query

namespace Token

/-- The tokens `us` are what is left of `ts` when any number of `and` are omitted. -/
inductive Abbreviates : List Token → List Token → Prop
  | nil : Abbreviates [] []
  | keep (t : Token) {us ts : List Token} : Abbreviates us ts → Abbreviates (t :: us) (t :: ts)
  | skip {us ts : List Token} : Abbreviates us ts → Abbreviates us (.and :: ts)

/-- No operand follows another one directly, and `and` only stands between operands. The flag says
whether an operand ends in front of the tokens. -/
inductive Joined : Bool → List Token → Prop
  | nil (before : Bool) : Joined before []
  | cons {before : Bool} {t : Token} {ts : List Token} : t ≠ .and →
      (before && t.startsOperand) = false → Joined t.endsOperand ts → Joined before (t :: ts)
  | and {t : Token} {ts : List Token} : t.startsOperand = true → Joined t.endsOperand ts →
      Joined true (.and :: t :: ts)

section Restoring

variable {before : Bool} {t : Token} {ts us : List Token}

lemma Abbreviates.refl (ts : List Token) : Abbreviates ts ts := by
  induction ts with
  | nil => exact .nil
  | cons t ts ih => exact .keep t ih

lemma ne_and_of_startsOperand (h : t.startsOperand = true) : t ≠ .and := by
  rintro rfl
  exact absurd h (by decide)

/-- Any token but `and` is kept. -/
lemma Abbreviates.exists_of_ne_and (h : Abbreviates us (t :: ts)) (ht : t ≠ .and) :
    ∃ vs, us = t :: vs ∧ Abbreviates vs ts := by
  cases h with
  | keep _ h => exact ⟨_, rfl, h⟩
  | skip h => exact absurd rfl ht

lemma joinFrom_cons_of_false (h : (before && t.startsOperand) = false) (ts : List Token) :
    joinFrom before (t :: ts) = t :: joinFrom t.endsOperand ts := by
  simp [joinFrom, h]

lemma joinFrom_cons_of_startsOperand (h : t.startsOperand = true) (ts : List Token) :
    joinFrom true (t :: ts) = .and :: t :: joinFrom t.endsOperand ts := by
  simp [joinFrom, h]

/-- Every `and` that has been omitted is put back, and nothing else is put in. -/
lemma joinFrom_of_abbreviates (hts : Joined before ts) (h : Abbreviates us ts) :
    joinFrom before us = ts := by
  induction hts generalizing us with
  | nil before =>
    cases h
    rfl
  | @cons before t ts hand hstarts _ ih =>
    obtain ⟨vs, rfl, hvs⟩ := h.exists_of_ne_and hand
    rw [joinFrom_cons_of_false hstarts, ih hvs]
  | @and t ts hstarts _ ih =>
    have hand := ne_and_of_startsOperand hstarts
    cases h with
    | keep _ h =>
      -- no operand ends at an `and` that is still there, so no second one is put behind it
      obtain ⟨vs, rfl, hvs⟩ := h.exists_of_ne_and hand
      have hbehind : (Token.and.endsOperand && t.startsOperand) = false := rfl
      rw [joinFrom_cons_of_false rfl, joinFrom_cons_of_false hbehind, ih hvs]
    | skip h =>
      obtain ⟨vs, rfl, hvs⟩ := h.exists_of_ne_and hand
      rw [joinFrom_cons_of_startsOperand hstarts, ih hvs]

end Restoring

/-- The tokens begin with an operand. -/
inductive BeginsOperand : List Token → Prop
  | cons {t : Token} {ts : List Token} : t.startsOperand = true → Joined t.endsOperand ts →
      BeginsOperand (t :: ts)

lemma BeginsOperand.joined {ts : List Token} (h : BeginsOperand ts) : Joined false ts := by
  cases h with
  | cons hstarts hts => exact .cons (ne_and_of_startsOperand hstarts) (Bool.false_and _) hts

lemma BeginsOperand.joined_and {ts : List Token} (h : BeginsOperand ts) :
    Joined true (.and :: ts) := by
  cases h with
  | cons hstarts hts => exact .and hstarts hts

end Token

namespace Grammar

open Token (Abbreviates Joined BeginsOperand joinOperands)

mutual

/-- A disjunction is an operand, and so are the conjunctions and factors below. -/
lemma Disjunction.beginsOperand : ∀ (d : Disjunction) {rest : List Token}, Joined true rest →
    BeginsOperand (d.tokens ++ rest)
  | .one c, rest, hrest => by
    rw [Disjunction.tokens]
    exact c.beginsOperand hrest
  | .more c d, rest, hrest => by
    rw [Disjunction.tokens, List.append_assoc]
    exact c.beginsOperand (.cons (by decide) rfl (d.beginsOperand hrest).joined)

lemma Conjunction.beginsOperand : ∀ (c : Conjunction) {rest : List Token}, Joined true rest →
    BeginsOperand (c.tokens ++ rest)
  | .one f, rest, hrest => by
    rw [Conjunction.tokens]
    exact f.beginsOperand hrest
  | .more f c, rest, hrest => by
    rw [Conjunction.tokens, List.append_assoc]
    exact f.beginsOperand (c.beginsOperand hrest).joined_and

lemma Factor.beginsOperand : ∀ (f : Factor) {rest : List Token}, Joined true rest →
    BeginsOperand (f.tokens ++ rest)
  | .not f, rest, hrest => by
    rw [Factor.tokens]
    exact .cons rfl (f.beginsOperand hrest).joined
  | .term t, rest, hrest => by
    rw [Factor.tokens]
    exact .cons rfl hrest
  | .group d, rest, hrest => by
    have hclosing : Joined true (.closing :: rest) := .cons (by decide) rfl hrest
    rw [Factor.tokens, List.cons_append, List.append_assoc]
    exact .cons rfl (d.beginsOperand hclosing).joined

end

lemma Disjunction.joined (d : Disjunction) : Joined false d.tokens := by
  have h := (d.beginsOperand (.nil true)).joined
  rwa [List.append_nil] at h

variable {ts us : List Token} {e : Expr}

/-- The tokens of a derivation are restored when `and` has been omitted. -/
lemma joinOperands_of_abbreviates (h : parseTokens ts = .ok e) (hus : Abbreviates us ts) :
    joinOperands us = ts := by
  obtain ⟨d, rfl, -⟩ := parseTokens_eq_ok_iff.1 h
  exact Token.joinFrom_of_abbreviates d.joined hus

/-- **Joining operands is conservative.** Tokens that the grammar accepts as they are, with every
`and` written out,

* are left unchanged when operands are joined,
* are what operands are joined to when any of the `and` are omitted; so with or without these, they
  are parsed to the same expression, and any query that has what is left for its tokens has this
  expression. -/
theorem joinOperands_conservative (h : parseTokens ts = .ok e) :
    joinOperands ts = ts ∧
      ∀ us, Abbreviates us ts → joinOperands us = ts ∧ parseTokens (joinOperands us) = .ok e ∧
        ∀ (c : Compiler) (query : String),
          Token.scan c.analyzer c.reserved query = us → c.parse query = .ok (some e) := by
  refine ⟨joinOperands_of_abbreviates h (.refl ts), fun us hus => ?_⟩
  have hjoin := joinOperands_of_abbreviates h hus
  refine ⟨hjoin, hjoin ▸ h, fun c query hscan => ?_⟩
  obtain ⟨d, hd, he⟩ := parseTokens_eq_ok_iff.1 h
  refine Compiler.parse_eq_some_iff.2 ⟨d, ?_, he⟩
  rw [Compiler.tokens, hscan, hjoin, hd]

/-- The tokens of `1 and (2 or not 3) and not 4`. -/
def writtenOut : List Token :=
  [.term "1", .and, .opening, .term "2", .or, .not, .term "3", .closing, .and, .not, .term "4"]

/-- The tokens of `1 and (2 or not 3) not 4`. -/
def partlyWrittenOut : List Token :=
  [.term "1", .and, .opening, .term "2", .or, .not, .term "3", .closing, .not, .term "4"]

lemma partlyWrittenOut_abbreviates : Abbreviates partlyWrittenOut writtenOut := by
  iterate 8 apply Abbreviates.keep
  exact .skip (.refl _)

theorem partlyWrittenOut_restored :
    ∃ e, parseTokens writtenOut = .ok e ∧ joinOperands writtenOut = writtenOut ∧
      joinOperands partlyWrittenOut = writtenOut ∧
      parseTokens (joinOperands partlyWrittenOut) = .ok e := by
  have h : parseTokens writtenOut = .ok (.and [.literal "1",
      .or [.literal "2", .not (.literal "3")], .not (.literal "4")]) := by cbv
  obtain ⟨hsame, hrestored⟩ := joinOperands_conservative h
  obtain ⟨hjoin, hparse, -⟩ := hrestored _ partlyWrittenOut_abbreviates
  exact ⟨_, h, hsame, hjoin, hparse⟩

end Grammar

end DocSearch.Query
