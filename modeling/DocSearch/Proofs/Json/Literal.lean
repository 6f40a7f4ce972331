import DocSearch.Proofs.Basic
import DocSearch.Json.Node

/-!
# Reading strings and numbers in JSON

What is read from the front of a text does not depend on what follows (`quoted_append`), unless it
is a number that may go on (`numeral?_append`).

The reading functions return proofs that what is left is shorter. They are taken off by `bare`, and
for each function there are equations in which they do not occur.
-/

namespace DocSearch.Json

/-- What is read and what is left, without the proof that it is shorter. -/
def bare {γ : Type} {p : List Char → Prop} (o : Option (γ × { r : List Char // p r })) :
    Option (γ × List Char) :=
  o.map fun (v, r) => (v, r.1)

lemma bare_some {γ : Type} {p : List Char → Prop} {v : γ} {r : { r : List Char // p r }} :
    bare (some (v, r)) = some (v, r.1) :=
  rfl

lemma bare_none {γ : Type} {p : List Char → Prop} :
    bare (none : Option (γ × { r : List Char // p r })) = none :=
  rfl

variable {s r t : List Char} {us : List Nat}

/-! ## Strings -/

lemma bare_quoted_quote (s : List Char) : bare (quoted ('"' :: s)) = some ([], s) := by
  rw [quoted, bare_some]

lemma bare_quoted_code (a b c d : Char) (s : List Char) :
    bare (quoted ('\\' :: 'u' :: a :: b :: c :: d :: s)) =
      (hexWord? a b c d).bind fun u => (bare (quoted s)).map fun (us, r) => (u :: us, r) := by
  rw [quoted]
  cases hexWord? a b c d <;> cases quoted s <;> rfl

lemma bare_quoted_escaped {e : Char} (he : e ≠ 'u') (s : List Char) :
    bare (quoted ('\\' :: e :: s)) =
      (unescape? e).bind fun x => (bare (quoted s)).map fun (us, r) => (x.toNat :: us, r) := by
  rw [quoted]
  · cases unescape? e <;> cases quoted s <;> rfl
  · exact fun _ _ _ _ _ hu _ => he hu

lemma bare_quoted_plain {c : Char} (hq : c ≠ '"') (hb : c ≠ '\\') (hc : 0x20 ≤ c.toNat)
    (s : List Char) :
    bare (quoted (c :: s)) = (bare (quoted s)).map fun (us, r) => (c.toNat :: us, r) := by
  have hplain : ¬ (c = '\\' ∨ c.toNat < 0x20) := by
    rintro (h | h)
    · exact hb h
    · omega
  rw [quoted]
  · rw [if_neg hplain]
    cases quoted s <;> rfl
  · exact hq
  · exact fun _ _ _ _ _ h _ => hb h
  · exact fun _ _ h _ => hb h

lemma unescape?_u : unescape? 'u' = none := rfl

/-- What follows a string does not matter. -/
lemma quoted_append (t : List Char) : ∀ {us : List Nat} {r : List Char},
    bare (quoted s) = some (us, r) → bare (quoted (s ++ t)) = some (us, r ++ t) := by
  -- By the reading of the string; the first cases are those in which none is read.
  fun_induction quoted s with
  | case1 | case4 | case6 | case7 | case9 => exact fun h => absurd h (by simp [bare_none])
  | case2 s =>
    intro us r h
    obtain ⟨rfl, rfl⟩ := Prod.mk.inj (Option.some.inj h)
    exact bare_quoted_quote (s ++ t)
  | case3 a b c d s u us q hs hu ih =>
    intro us' r h
    obtain ⟨rfl, rfl⟩ := Prod.mk.inj (Option.some.inj h)
    have hrest := ih (by rw [hs, bare_some])
    simp only [List.cons_append, bare_quoted_code, hu, hrest, Option.bind_some, Option.map_some]
  | case5 e s _ x us q hs hx ih =>
    intro us' r h
    obtain ⟨rfl, rfl⟩ := Prod.mk.inj (Option.some.inj h)
    have hrest := ih (by rw [hs, bare_some])
    have he : e ≠ 'u' := by
      rintro rfl
      exact absurd (unescape?_u.symm.trans hx) (by simp)
    simp only [List.cons_append, bare_quoted_escaped he, hx, hrest, Option.bind_some,
      Option.map_some]
  | case8 c s hq _ _ hc us q hs ih =>
    intro us' r h
    obtain ⟨rfl, rfl⟩ := Prod.mk.inj (Option.some.inj h)
    have hrest := ih (by rw [hs, bare_some])
    obtain ⟨hb, hc⟩ := not_or.1 hc
    simp only [List.cons_append, bare_quoted_plain hq hb (Nat.le_of_not_lt hc), hrest,
      Option.map_some]

/-! ## Numbers -/

lemma dropWhile_append_of_ne_nil {p : Char → Bool} (h : s.dropWhile p ≠ []) (t : List Char) :
    (s ++ t).dropWhile p = s.dropWhile p ++ t := by
  rw [List.dropWhile_append, if_neg (by simpa using h)]

lemma takeWhile_append_of_ne_nil {p : Char → Bool} (h : s.dropWhile p ≠ []) (t : List Char) :
    (s ++ t).takeWhile p = s.takeWhile p := by
  rw [List.takeWhile_append, if_neg]
  intro hlen
  have hsplit := congrArg List.length (List.takeWhile_append_dropWhile (p := p) (l := s))
  rw [List.length_append, hlen] at hsplit
  exact h (List.length_eq_zero_iff.1 (by omega))

lemma bare_fraction?_point (s : List Char) : bare (fraction? ('.' :: s)) =
    if s.takeWhile isDigit = [] then none
    else some (some (s.takeWhile isDigit), s.dropWhile isDigit) := by
  rw [fraction?]
  split <;> rfl

lemma bare_fraction?_of_ne (h : ∀ r, s ≠ '.' :: r) : bare (fraction? s) = some (none, s) := by
  rw [fraction?]
  · rfl
  · exact h

lemma bare_fraction?_nil : bare (fraction? []) = some (none, []) :=
  bare_fraction?_of_ne (by simp)

lemma fraction?_append {f : Option (List Char)} (h : bare (fraction? s) = some (f, r))
    (hr : r ≠ []) (t : List Char) : bare (fraction? (s ++ t)) = some (f, r ++ t) := by
  by_cases hpoint : ∃ u, s = '.' :: u
  · obtain ⟨u, rfl⟩ := hpoint
    rw [bare_fraction?_point] at h
    split at h
    · exact absurd h (by simp)
    · next hdigits =>
      obtain ⟨rfl, rfl⟩ := Prod.mk.inj (Option.some.inj h)
      rw [List.cons_append, bare_fraction?_point, takeWhile_append_of_ne_nil hr,
        dropWhile_append_of_ne_nil hr, if_neg hdigits]
  · have hs : ∀ u, s ≠ '.' :: u := fun u hu => hpoint ⟨u, hu⟩
    rw [bare_fraction?_of_ne hs] at h
    obtain ⟨rfl, rfl⟩ := Prod.mk.inj (Option.some.inj h)
    refine bare_fraction?_of_ne fun u hu => ?_
    obtain ⟨c, v, rfl⟩ := List.exists_cons_of_ne_nil hr
    rw [List.cons_append, List.cons.injEq] at hu
    exact hs v (by rw [hu.1])

lemma bare_exponentDigits? (negative : Bool) (s : List Char) :
    bare (exponentDigits? negative s) =
      if s.takeWhile isDigit = [] then none
      else some (⟨negative, s.takeWhile isDigit⟩, s.dropWhile isDigit) := by
  rw [exponentDigits?]
  split <;> rfl

lemma exponentDigits?_append {negative : Bool} {e : Exponent}
    (h : bare (exponentDigits? negative s) = some (e, r)) (hr : r ≠ []) (t : List Char) :
    bare (exponentDigits? negative (s ++ t)) = some (e, r ++ t) := by
  rw [bare_exponentDigits?] at h ⊢
  split at h
  · exact absurd h (by simp)
  · next hdigits =>
    obtain ⟨rfl, rfl⟩ := Prod.mk.inj (Option.some.inj h)
    rw [takeWhile_append_of_ne_nil hr, dropWhile_append_of_ne_nil hr, if_neg hdigits]

/-- The sign of an exponent, and what follows it. -/
def exponentSign : List Char → Bool × List Char
  | [] => (false, [])
  | c :: s => if c = '+' then (false, s) else if c = '-' then (true, s) else (false, c :: s)

lemma exponentSign_append (h : s ≠ []) (t : List Char) :
    exponentSign (s ++ t) = ((exponentSign s).1, (exponentSign s).2 ++ t) := by
  obtain ⟨c, u, rfl⟩ := List.exists_cons_of_ne_nil h
  by_cases hplus : c = '+'
  · simp [exponentSign, hplus]
  · by_cases hminus : c = '-' <;> simp [exponentSign, hplus, hminus]

lemma bare_exponent?_of_ne {c : Char} (hc : ¬ (c = 'e' ∨ c = 'E')) (s : List Char) :
    bare (exponent? (c :: s)) = some (none, c :: s) := by
  unfold exponent?
  dsimp only
  rw [if_neg hc, bare_some]

lemma bare_exponent?_mark {c : Char} (hc : c = 'e' ∨ c = 'E') (s : List Char) :
    bare (exponent? (c :: s)) =
      (bare (exponentDigits? (exponentSign s).1 (exponentSign s).2)).map
        fun (e, r) => (some e, r) := by
  unfold exponent?
  dsimp only
  rw [if_pos hc]
  split
  · next q =>
    rw [show exponentSign ('+' :: q) = (false, q) from rfl]
    cases exponentDigits? false q <;> rfl
  · next q =>
    rw [show exponentSign ('-' :: q) = (true, q) from rfl]
    cases exponentDigits? true q <;> rfl
  · next hplus hminus =>
    have hsign : exponentSign s = (false, s) := by
      cases s with
      | nil => rfl
      | cons d s =>
        have hplus : d ≠ '+' := fun h => hplus s (by rw [h])
        have hminus : d ≠ '-' := fun h => hminus s (by rw [h])
        simp [exponentSign, hplus, hminus]
    rw [hsign]
    cases exponentDigits? false s <;> rfl

lemma exponent?_append {e : Option Exponent} (h : bare (exponent? s) = some (e, r)) (hr : r ≠ [])
    (t : List Char) : bare (exponent? (s ++ t)) = some (e, r ++ t) := by
  cases s with
  | nil =>
    obtain ⟨-, rfl⟩ := Prod.mk.inj (Option.some.inj h)
    exact absurd rfl hr
  | cons c s =>
    rw [List.cons_append]
    by_cases hc : c = 'e' ∨ c = 'E'
    · rw [bare_exponent?_mark hc] at h
      obtain ⟨⟨e', r'⟩, he, hpair⟩ := Option.map_eq_some_iff.1 h
      obtain ⟨rfl, rfl⟩ := Prod.mk.inj hpair
      have hs : s ≠ [] := by
        rintro rfl
        exact absurd he (by simp [exponentSign, bare_exponentDigits?])
      rw [bare_exponent?_mark hc, exponentSign_append hs, exponentDigits?_append he hr]
      rfl
    · rw [bare_exponent?_of_ne hc] at h ⊢
      obtain ⟨rfl, rfl⟩ := Prod.mk.inj (Option.some.inj h)
      rfl

lemma bare_unsigned? (negative : Bool) (s : List Char) : bare (unsigned? negative s) =
    if s.takeWhile isDigit = [] ∨ isInteger (s.takeWhile isDigit) = false then none
    else (bare (fraction? (s.dropWhile isDigit))).bind fun (f, p) =>
      (bare (exponent? p)).map fun (e, q) => (⟨negative, s.takeWhile isDigit, f, e⟩, q) := by
  rw [unsigned?]
  by_cases hdigits : s.takeWhile isDigit = []
  · rw [dif_pos hdigits, if_pos (Or.inl hdigits), bare_none]
  · rw [dif_neg hdigits]
    cases hint : isInteger (s.takeWhile isDigit) with
    | false => rw [if_neg Bool.false_ne_true, if_pos (Or.inr rfl), bare_none]
    | true =>
      rw [if_pos rfl, if_neg (by simp [hdigits])]
      cases hf : fraction? (s.dropWhile isDigit) with
      | none => rfl
      | some x =>
        obtain ⟨f, p⟩ := x
        simp only [bare_some, Option.bind_some]
        cases he : exponent? p.1 with
        | none => rfl
        | some y => rfl

lemma unsigned?_append {negative : Bool} {n : Numeral}
    (h : bare (unsigned? negative s) = some (n, r)) (hr : r ≠ []) (t : List Char) :
    bare (unsigned? negative (s ++ t)) = some (n, r ++ t) := by
  rw [bare_unsigned?] at h
  split at h
  · exact absurd h (by simp)
  · next hdigits =>
    obtain ⟨⟨f, p⟩, hf, hrest⟩ := Option.bind_eq_some_iff.1 h
    obtain ⟨⟨e, q⟩, he, hpair⟩ := Option.map_eq_some_iff.1 hrest
    obtain ⟨rfl, rfl⟩ := Prod.mk.inj hpair
    have hp : p ≠ [] := by
      rintro rfl
      exact hr (Prod.mk.inj (Option.some.inj he)).2.symm
    have hs : s.dropWhile isDigit ≠ [] := by
      intro hs
      rw [hs, bare_fraction?_nil] at hf
      exact hp (Prod.mk.inj (Option.some.inj hf)).2.symm
    rw [bare_unsigned?, takeWhile_append_of_ne_nil hs, dropWhile_append_of_ne_nil hs,
      if_neg hdigits]
    simp only [fraction?_append hf hp, Option.bind_some, exponent?_append he hr, Option.map_some]

lemma bare_numeral?_minus (s : List Char) :
    bare (numeral? ('-' :: s)) = bare (unsigned? true s) := by
  rw [numeral?]
  cases unsigned? true s <;> rfl

lemma numeral?_of_ne (h : ∀ r, s ≠ '-' :: r) : numeral? s = unsigned? false s := by
  rw [numeral?]
  exact h

lemma unsigned?_nil (negative : Bool) : unsigned? negative [] = none :=
  rfl

/-- What follows a number does not matter if there is something behind the number already. -/
lemma numeral?_append {n : Numeral} (h : bare (numeral? s) = some (n, r)) (hr : r ≠ [])
    (t : List Char) : bare (numeral? (s ++ t)) = some (n, r ++ t) := by
  by_cases hminus : ∃ u, s = '-' :: u
  · obtain ⟨u, rfl⟩ := hminus
    rw [bare_numeral?_minus] at h
    rw [List.cons_append, bare_numeral?_minus, unsigned?_append h hr]
  · have hs : ∀ u, s ≠ '-' :: u := fun u hu => hminus ⟨u, hu⟩
    rw [numeral?_of_ne hs] at h
    rw [numeral?_of_ne, unsigned?_append h hr]
    intro u hu
    cases s with
    | nil => exact absurd h (by simp [unsigned?_nil, bare_none])
    | cons c s =>
      rw [List.cons_append, List.cons.injEq] at hu
      exact hs s (by rw [hu.1])

/-- A number begins with a digit or a minus sign. -/
lemma exists_of_numeral? {n : Numeral} (h : bare (numeral? s) = some (n, r)) :
    ∃ c u, s = c :: u ∧ (c = '-' ∨ isDigit c = true) := by
  cases s with
  | nil => exact absurd h (by simp [numeral?_of_ne, unsigned?_nil, bare_none])
  | cons c s =>
    refine ⟨c, s, rfl, ?_⟩
    by_cases hminus : c = '-'
    · exact Or.inl hminus
    · refine Or.inr (Classical.byContradiction fun hdigit => ?_)
      rw [numeral?_of_ne (by simp [hminus]), bare_unsigned?, List.takeWhile_cons_of_neg hdigit,
        if_pos (Or.inl rfl)] at h
      exact absurd h (by simp)

end DocSearch.Json
