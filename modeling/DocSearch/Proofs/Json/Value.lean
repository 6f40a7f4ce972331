import DocSearch.Proofs.Json.Literal

/-!
# Reading JSON values

A value is read from the front of a text in the same way whatever follows it, unless it is a number
that may go on (`value?_append`). So no proper prefix of an object is a JSON text
(`Node.ofText?_eq_none_of_append`).
-/

namespace DocSearch.Json

variable {s r t : List Char}

lemma lt_of_bare {γ : Type} {v : γ} {o : Option (γ × Rest s)} (h : bare o = some (v, r)) :
    r.length < s.length := by
  obtain ⟨⟨w, q⟩, -, hpair⟩ := Option.map_eq_some_iff.1 h
  obtain ⟨-, rfl⟩ := Prod.mk.inj hpair
  exact q.2

lemma skipBlank_append {c : Char} (h : skipBlank s = c :: r) (t : List Char) :
    skipBlank (s ++ t) = c :: (r ++ t) := by
  have hne : s.dropWhile isBlank ≠ [] := by
    rw [show s.dropWhile isBlank = c :: r from h]
    exact List.cons_ne_nil c r
  rw [skipBlank, dropWhile_append_of_ne_nil hne]
  exact congrArg (· ++ t) h

lemma length_of_skipBlank {c : Char} (h : skipBlank s = c :: r) : r.length < s.length := by
  have hle := length_skipBlank_le s
  rw [h, List.length_cons] at hle
  omega

lemma bare_value? (s : List Char) : bare (value? s) =
    match skipBlank s with
    | 'n' :: 'u' :: 'l' :: 'l' :: r => some (.null, r)
    | 't' :: 'r' :: 'u' :: 'e' :: r => some (.bool true, r)
    | 'f' :: 'a' :: 'l' :: 's' :: 'e' :: r => some (.bool false, r)
    | '"' :: r => (bare (quoted r)).map fun (units, q) => (.string (stringOf units), q)
    | '[' :: r =>
      match skipBlank r with
      | ']' :: q => some (.array [], q)
      | _ => (bare (items? r)).map fun (items, q) => (.array items, q)
    | '\x7b' :: r =>
      match skipBlank r with
      | '\x7d' :: q => some (.object [], q)
      | _ => (bare (members? r)).map fun (members, q) => (.object members, q)
    | u => (bare (numeral? u)).map fun (n, q) => (.number n, q) := by
  rw [value?]
  split
  · next h => simp only [h, bare_some]
  · next h => simp only [h, bare_some]
  · next h => simp only [h, bare_some]
  · next r h =>
    simp only [h]
    cases quoted r <;> rfl
  · next r h =>
    simp only [h]
    split
    · next hr => simp only [hr, bare_some]
    · next hr =>
      cases items? r <;>
        · simp only
          rfl
  · next r h =>
    simp only [h]
    split
    · next hr => simp only [hr, bare_some]
    · next hr =>
      cases members? r <;>
        · simp only
          rfl
  · next hnull htrue hfalse hquote harray hobject =>
    split
    · next h => exact absurd h (hnull _)
    · next h => exact absurd h (htrue _)
    · next h => exact absurd h (hfalse _)
    · next h => exact absurd h (hquote _)
    · next h => exact absurd h (harray _)
    · next h => exact absurd h (hobject _)
    · cases numeral? (skipBlank s) <;> rfl

/-- Blanks in front of a value do not matter. -/
lemma bare_value?_congr (h : skipBlank s = skipBlank t) : bare (value? s) = bare (value? t) := by
  rw [bare_value?, bare_value?, h]

lemma bare_items? (s : List Char) : bare (items? s) =
    (bare (value? s)).bind fun (v, p) =>
      match skipBlank p with
      | ']' :: r => some ([v], r)
      | ',' :: r => (bare (items? r)).map fun (vs, q) => (v :: vs, q)
      | _ => none := by
  rw [items?]
  cases hv : value? s with
  | none => rfl
  | some x =>
    obtain ⟨v, p⟩ := x
    simp only [bare_some, Option.bind_some]
    split
    · next r h => simp only [h, bare_some]
    · next r h =>
      simp only [h]
      cases items? r <;> rfl
    · next hclose hcomma =>
      split
      · next h => exact absurd h (hclose _)
      · next h => exact absurd h (hcomma _)
      · rfl

lemma bare_members? (s : List Char) : bare (members? s) =
    match skipBlank s with
    | '"' :: r =>
      (bare (quoted r)).bind fun (units, k) =>
        match skipBlank k with
        | ':' :: u =>
          (bare (value? u)).bind fun (v, p) =>
            match skipBlank p with
            | '\x7d' :: q => some ([(stringOf units, v)], q)
            | ',' :: q => (bare (members? q)).map fun (ms, z) => ((stringOf units, v) :: ms, z)
            | _ => none
        | _ => none
    | _ => none := by
  rw [members?]
  split
  · next r h =>
    simp only [h]
    cases hq : quoted r with
    | none => rfl
    | some x =>
      obtain ⟨units, k⟩ := x
      simp only [bare_some, Option.bind_some]
      split
      · next u hc =>
        simp only [hc]
        cases hv : value? u with
        | none => rfl
        | some y =>
          obtain ⟨v, p⟩ := y
          simp only [bare_some, Option.bind_some]
          split
          · next q hd => simp only [hd, bare_some]
          · next q hd =>
            simp only [hd]
            cases members? q <;> rfl
          · next hclose hcomma =>
            split
            · next h => exact absurd h (hclose _)
            · next h => exact absurd h (hcomma _)
            · rfl
      · next hcolon =>
        split
        · next h => exact absurd h (hcolon _)
        · rfl
  · next hquote =>
    split
    · next h => exact absurd h (hquote _)
    · rfl

lemma bare_value?_numeral {c : Char} (hs : skipBlank s = c :: r)
    (hc : c = '-' ∨ isDigit c = true) :
    bare (value? s) = (bare (numeral? (c :: r))).map fun (n, q) => (.number n, q) := by
  have hne : ∀ d : Char, d ≠ '-' → isDigit d = false → c ≠ d := by
    rintro d hminus hdigit rfl
    exact hc.elim hminus (by simp [hdigit])
  rw [bare_value?, hs]
  split
  · next h => exact absurd (List.cons.inj h).1 (hne 'n' (by decide) (by decide))
  · next h => exact absurd (List.cons.inj h).1 (hne 't' (by decide) (by decide))
  · next h => exact absurd (List.cons.inj h).1 (hne 'f' (by decide) (by decide))
  · next h => exact absurd (List.cons.inj h).1 (hne '"' (by decide) (by decide))
  · next h => exact absurd (List.cons.inj h).1 (hne '[' (by decide) (by decide))
  · next h => exact absurd (List.cons.inj h).1 (hne '\x7b' (by decide) (by decide))
  · rfl

/-- The value is not a number, or something is left behind it. -/
def Delimited (v : Node) (r : List Char) : Prop := r = [] → ∀ n, v ≠ .number n

lemma delimited_of_skipBlank {v : Node} {c : Char} (h : skipBlank r = c :: s) : Delimited v r := by
  rintro rfl
  exact absurd h (by simp [skipBlank])

lemma exists_skipBlank_of_value? {v : Node} (h : bare (value? s) = some (v, r)) :
    ∃ c u, skipBlank s = c :: u := by
  refine List.exists_cons_of_ne_nil fun hnil => ?_
  rw [bare_value?, hnil] at h
  exact absurd h (by simp [numeral?_of_ne, unsigned?_nil, bare_none])

lemma exists_skipBlank_of_items? {vs : List Node} (h : bare (items? s) = some (vs, r)) :
    ∃ c u, skipBlank s = c :: u := by
  rw [bare_items?] at h
  obtain ⟨⟨v, p⟩, hv, -⟩ := Option.bind_eq_some_iff.1 h
  exact exists_skipBlank_of_value? hv

lemma exists_skipBlank_of_members? {ms : List (Option String × Node)}
    (h : bare (members? s) = some (ms, r)) : ∃ u, skipBlank s = '"' :: u := by
  rw [bare_members?] at h
  split at h
  · next u hu => exact ⟨u, hu⟩
  · exact absurd h (by simp)

mutual

/-- What follows a value that is delimited does not matter. -/
theorem value?_append (t : List Char) {s r : List Char} {v : Node}
    (h : bare (value? s) = some (v, r)) (hv : Delimited v r) :
    bare (value? (s ++ t)) = some (v, r ++ t) := by
  rw [bare_value?] at h
  split at h
  · next u hs =>
    obtain ⟨rfl, rfl⟩ := Prod.mk.inj (Option.some.inj h)
    simp only [bare_value?, skipBlank_append hs, List.cons_append]
  · next u hs =>
    obtain ⟨rfl, rfl⟩ := Prod.mk.inj (Option.some.inj h)
    simp only [bare_value?, skipBlank_append hs, List.cons_append]
  · next u hs =>
    obtain ⟨rfl, rfl⟩ := Prod.mk.inj (Option.some.inj h)
    simp only [bare_value?, skipBlank_append hs, List.cons_append]
  · next u hs =>
    obtain ⟨⟨units, q⟩, hq, hpair⟩ := Option.map_eq_some_iff.1 h
    obtain ⟨rfl, rfl⟩ := Prod.mk.inj hpair
    simp only [bare_value?, skipBlank_append hs, quoted_append t hq, Option.map_some]
  · next u hs =>
    have hlt := length_of_skipBlank hs
    split at h
    · next q hu =>
      obtain ⟨rfl, rfl⟩ := Prod.mk.inj (Option.some.inj h)
      simp only [bare_value?, skipBlank_append hs, skipBlank_append hu]
    · next hclose =>
      obtain ⟨⟨items, q⟩, hq, hpair⟩ := Option.map_eq_some_iff.1 h
      obtain ⟨rfl, rfl⟩ := Prod.mk.inj hpair
      -- An item follows the bracket, so that with more text the array is not empty either.
      obtain ⟨c, w, hc⟩ := exists_skipBlank_of_items? hq
      rw [bare_value?]
      simp only [skipBlank_append hs, skipBlank_append hc, items?_append t hq, Option.map_some]
      split
      · next hopen => exact absurd (hc.trans (by rw [(List.cons.inj hopen).1])) (hclose w)
      · rfl
  · next u hs =>
    have hlt := length_of_skipBlank hs
    split at h
    · next q hu =>
      obtain ⟨rfl, rfl⟩ := Prod.mk.inj (Option.some.inj h)
      simp only [bare_value?, skipBlank_append hs, skipBlank_append hu]
    · next hclose =>
      obtain ⟨⟨members, q⟩, hq, hpair⟩ := Option.map_eq_some_iff.1 h
      obtain ⟨rfl, rfl⟩ := Prod.mk.inj hpair
      obtain ⟨w, hw⟩ := exists_skipBlank_of_members? hq
      rw [bare_value?]
      simp only [skipBlank_append hs, skipBlank_append hw, members?_append t hq, Option.map_some]
      rfl
  · -- Only a number could go on, but something is left behind it.
    obtain ⟨⟨n, q⟩, hq, hpair⟩ := Option.map_eq_some_iff.1 h
    obtain ⟨rfl, rfl⟩ := Prod.mk.inj hpair
    have hne : q ≠ [] := fun hnil => hv hnil n rfl
    obtain ⟨c, u, hs, hc⟩ := exists_of_numeral? hq
    rw [hs] at hq
    rw [bare_value?_numeral (skipBlank_append hs t) hc, ← List.cons_append,
      numeral?_append hq hne]
    rfl
termination_by 2 * s.length

/-- What follows the items of an array does not matter. -/
theorem items?_append (t : List Char) {s r : List Char} {vs : List Node}
    (h : bare (items? s) = some (vs, r)) : bare (items? (s ++ t)) = some (vs, r ++ t) := by
  rw [bare_items?] at h
  obtain ⟨⟨v, p⟩, hv, hrest⟩ := Option.bind_eq_some_iff.1 h
  have hp := lt_of_bare hv
  simp only at hrest
  split at hrest
  · next u hu =>
    obtain ⟨rfl, rfl⟩ := Prod.mk.inj (Option.some.inj hrest)
    rw [bare_items?]
    simp only [value?_append t hv (delimited_of_skipBlank hu), Option.bind_some,
      skipBlank_append hu]
  · next u hu =>
    have hlt := length_of_skipBlank hu
    obtain ⟨⟨vs', q⟩, hq, hpair⟩ := Option.map_eq_some_iff.1 hrest
    obtain ⟨rfl, rfl⟩ := Prod.mk.inj hpair
    rw [bare_items?]
    simp only [value?_append t hv (delimited_of_skipBlank hu), Option.bind_some,
      skipBlank_append hu, items?_append t hq, Option.map_some]
  · exact absurd hrest (by simp)
termination_by 2 * s.length + 1

/-- What follows the members of an object does not matter. -/
theorem members?_append (t : List Char) {s r : List Char} {ms : List (Option String × Node)}
    (h : bare (members? s) = some (ms, r)) : bare (members? (s ++ t)) = some (ms, r ++ t) := by
  rw [bare_members?] at h
  split at h
  · next u hs =>
    have hlt := length_of_skipBlank hs
    obtain ⟨⟨units, k⟩, hk, hrest⟩ := Option.bind_eq_some_iff.1 h
    have hklt := lt_of_bare hk
    simp only at hrest
    split at hrest
    · next w hw =>
      have hwlt := length_of_skipBlank hw
      obtain ⟨⟨v, p⟩, hv, hrest⟩ := Option.bind_eq_some_iff.1 hrest
      have hplt := lt_of_bare hv
      simp only at hrest
      split at hrest
      · next q hq =>
        obtain ⟨rfl, rfl⟩ := Prod.mk.inj (Option.some.inj hrest)
        rw [bare_members?]
        simp only [skipBlank_append hs, quoted_append t hk, Option.bind_some,
          skipBlank_append hw, value?_append t hv (delimited_of_skipBlank hq),
          skipBlank_append hq]
      · next q hq =>
        have hqlt := length_of_skipBlank hq
        obtain ⟨⟨ms', z⟩, hms, hpair⟩ := Option.map_eq_some_iff.1 hrest
        obtain ⟨rfl, rfl⟩ := Prod.mk.inj hpair
        rw [bare_members?]
        simp only [skipBlank_append hs, quoted_append t hk, Option.bind_some,
          skipBlank_append hw, value?_append t hv (delimited_of_skipBlank hq),
          skipBlank_append hq, members?_append t hms, Option.map_some]
      · exact absurd hrest (by simp)
    · exact absurd hrest (by simp)
  · exact absurd h (by simp)
termination_by 2 * s.length + 1

end

lemma bare_value?_object {ms : List (Option String × Node)}
    (h : bare (members? s) = some (ms, r)) :
    bare (value? ('\x7b' :: s)) = some (.object ms, r) := by
  obtain ⟨u, hu⟩ := exists_skipBlank_of_members? h
  rw [bare_value?, show skipBlank ('\x7b' :: s) = '\x7b' :: s from rfl]
  simp only [hu, h, Option.map_some]
  rfl

lemma Node.ofText?_of_value? {v : Node} (h : bare (value? s) = some (v, [])) :
    Node.ofText? s = some v := by
  obtain ⟨⟨w, q⟩, hw, hpair⟩ := Option.map_eq_some_iff.1 h
  obtain ⟨rfl, hq⟩ := Prod.mk.inj hpair
  rw [Node.ofText?, hw]
  exact if_pos (by rw [hq]; rfl)

lemma delimited_of_object {v : Node} (h : bare (value? ('\x7b' :: s)) = some (v, r)) :
    Delimited v r := by
  rw [bare_value?, show skipBlank ('\x7b' :: s) = '\x7b' :: s from rfl] at h
  simp only at h
  rintro - n rfl
  split at h
  · exact absurd h (by simp)
  · obtain ⟨_, -, hpair⟩ := Option.map_eq_some_iff.1 h
    exact absurd (Prod.mk.inj hpair).1 (by simp)

/-- A proper prefix of an object is no JSON text. -/
theorem Node.ofText?_eq_none_of_append {v : Node}
    (h : bare (value? ('\x7b' :: s)) = some (v, [])) {u : List Char} (hu : u ++ t = '\x7b' :: s)
    (ht : t ≠ []) : Node.ofText? u = none := by
  rw [Node.ofText?]
  split
  · next w q hw =>
    have hprefix : bare (value? u) = some (w, q.1) := by rw [hw, bare_some]
    cases u with
    | nil =>
      obtain ⟨c, k, hnil⟩ := exists_skipBlank_of_value? hprefix
      exact absurd hnil (by simp [skipBlank])
    | cons c u =>
      obtain rfl := (List.cons.inj hu).1
      have hwhole := value?_append t hprefix (delimited_of_object hprefix)
      rw [hu, h] at hwhole
      have hnil := (Prod.mk.inj (Option.some.inj hwhole)).2
      exact absurd (List.append_eq_nil_iff.1 hnil.symm).2 ht
  · rfl

end DocSearch.Json
