import Mathlib.Data.List.Forall2
import Mathlib.Data.List.TakeWhile
import DocSearch.Proofs.Json.Value

/-!
# Objects in an array

Texts of objects that stand between brackets, with commas between them and blanks around them, write
the array of these objects (`ofText?_arrayText`): each of them is read to its end, since no text
that follows an object changes how the object is read.
-/

namespace DocSearch.Json

variable {s r t gap : List Char} {texts : List (List Char)} {v : Node} {vs : List Node}
  {members : List (Option String × Node)} {objects : List (List (Option String × Node))}

/-- The text writes an object with these members. -/
def WritesObject (s : List Char) (members : List (Option String × Node)) : Prop :=
  Node.ofText? s = some (.object members)

instance {P : List (Option String × Node) → Prop} [DecidablePred P] (s : List Char) :
    Decidable (∃ members, WritesObject s members ∧ P members) :=
  match h : Node.ofText? s with
  | some (.object members) =>
    if hP : P members then isTrue ⟨members, h, hP⟩
    else isFalse fun ⟨other, hother, hP'⟩ => hP (by
      obtain rfl : members = other := by simpa [h, WritesObject] using hother
      exact hP')
  | some .null | some (.bool _) | some (.number _) | some (.string _) | some (.array _) | none =>
    isFalse fun ⟨other, hother, _⟩ => by simp [h, WritesObject] at hother

/-- The texts as the items of an array, with blanks in front of and behind each of them. -/
def arrayText (gap : List Char) (texts : List (List Char)) : List Char :=
  '[' :: (gap ++ ((gap ++ ',' :: gap).intercalate texts ++ (gap ++ [']'])))

/-! ## Blanks around a value -/

lemma skipBlank_gap (hgap : ∀ c ∈ gap, isBlank c = true) (t : List Char) :
    skipBlank (gap ++ t) = skipBlank t :=
  List.dropWhile_append_of_pos hgap

lemma ne_close_of_value? (h : bare (value? s) = some (v, r)) (w : List Char) :
    skipBlank s ≠ ']' :: w := by
  intro hs
  rw [bare_value?, hs] at h
  obtain ⟨⟨n, q⟩, hn, -⟩ := Option.map_eq_some_iff.1 h
  obtain ⟨c, u, hcons, hc⟩ := exists_of_numeral? hn
  obtain ⟨rfl, -⟩ := List.cons.inj hcons
  exact absurd hc (by decide)

lemma ne_close_of_items? (h : bare (items? s) = some (vs, r)) (w : List Char) :
    skipBlank s ≠ ']' :: w := by
  rw [bare_items?] at h
  obtain ⟨⟨v, p⟩, hv, -⟩ := Option.bind_eq_some_iff.1 h
  exact ne_close_of_value? hv w

lemma Node.exists_of_ofText? (h : Node.ofText? s = some v) :
    ∃ r, bare (value? s) = some (v, r) ∧ skipBlank r = [] := by
  rw [Node.ofText?] at h
  split at h
  · next w q hw =>
    obtain ⟨hblank, hv⟩ := Option.ite_none_right_eq_some.1 h
    obtain rfl := Option.some.inj hv
    exact ⟨q.1, by rw [hw, bare_some], hblank⟩
  · exact absurd h (by simp)

lemma exists_skipBlank_of_object (h : bare (value? s) = some (.object members, r)) :
    ∃ u, skipBlank s = '\x7b' :: u := by
  rw [bare_value?] at h
  split at h
  · exact absurd h (by simp)
  · exact absurd h (by simp)
  · exact absurd h (by simp)
  · exact absurd h (by simp)
  · split at h
    · exact absurd h (by simp)
    · exact absurd h (by simp)
  · next u hu => exact ⟨u, hu⟩
  · exact absurd h (by simp)

/-- An object is read from the front of a text with blanks around it. -/
lemma WritesObject.exists_bare (h : WritesObject s members) (hgap : ∀ c ∈ gap, isBlank c = true)
    (t : List Char) : ∃ r, bare (value? (gap ++ (s ++ t))) = some (.object members, r) ∧
      skipBlank r = skipBlank t := by
  obtain ⟨r, hr, hblank⟩ := Node.exists_of_ofText? h
  refine ⟨r ++ t, ?_, skipBlank_gap (List.dropWhile_eq_nil_iff.1 hblank) t⟩
  rw [bare_value?_congr (skipBlank_gap hgap (s ++ t))]
  exact value?_append t hr fun _ n => by simp

/-! ## Items -/

lemma bare_items?_last (h : WritesObject s members) (hgap : ∀ c ∈ gap, isBlank c = true)
    (t : List Char) :
    bare (items? (gap ++ (s ++ (gap ++ ']' :: t)))) = some ([.object members], t) := by
  obtain ⟨r, hr, hblank⟩ := h.exists_bare hgap (gap ++ ']' :: t)
  have hclose : skipBlank r = ']' :: t := hblank.trans (skipBlank_gap hgap _)
  rw [bare_items?, hr, Option.bind_some]
  simp only [hclose]

lemma bare_items?_cons (h : WritesObject s members) (hgap : ∀ c ∈ gap, isBlank c = true)
    (t : List Char) : bare (items? (gap ++ (s ++ (gap ++ ',' :: t)))) =
      (bare (items? t)).map fun (vs, q) => (.object members :: vs, q) := by
  obtain ⟨r, hr, hblank⟩ := h.exists_bare hgap (gap ++ ',' :: t)
  have hcomma : skipBlank r = ',' :: t := hblank.trans (skipBlank_gap hgap _)
  rw [bare_items?, hr, Option.bind_some]
  simp only [hcomma]

/-- The texts of objects are read as the items of an array, up to the closing bracket. -/
lemma bare_items?_texts (hobjects : List.Forall₂ WritesObject texts objects) (hne : texts ≠ [])
    (hgap : ∀ c ∈ gap, isBlank c = true) :
    bare (items? (gap ++ ((gap ++ ',' :: gap).intercalate texts ++ (gap ++ [']'])))) =
      some (objects.map .object, []) := by
  induction hobjects with
  | nil => exact absurd rfl hne
  | @cons s _ _ _ hs hrest ih =>
    cases hrest with
    | nil => rw [List.intercalate_singleton, bare_items?_last hs hgap, List.map_singleton]
    | @cons s' _ texts _ hs' hrest =>
      have htext : (gap ++ ',' :: gap).intercalate (s :: s' :: texts) ++ (gap ++ [']']) =
          s ++ (gap ++ ',' :: (gap ++
            ((gap ++ ',' :: gap).intercalate (s' :: texts) ++ (gap ++ [']'])))) := by
        rw [List.intercalate_cons_cons]
        simp only [List.append_assoc, List.cons_append]
      rw [htext, bare_items?_cons hs hgap, ih (List.cons_ne_nil _ _)]
      rfl

/-- The texts of objects in an array write the array of these objects. -/
theorem ofText?_arrayText (hobjects : List.Forall₂ WritesObject texts objects)
    (hgap : ∀ c ∈ gap, isBlank c = true) :
    Node.ofText? (arrayText gap texts) = some (.array (objects.map .object)) := by
  refine Node.ofText?_of_value? ?_
  rw [bare_value?, arrayText, show skipBlank ('[' :: _) = '[' :: _ from rfl]
  simp only
  cases hobjects with
  | nil =>
    have hclose : skipBlank (gap ++ ((gap ++ ',' :: gap).intercalate [] ++ (gap ++ [']']))) =
        [']'] := by
      rw [skipBlank_gap hgap, List.intercalate_nil, List.nil_append, skipBlank_gap hgap]
      rfl
    simp only [hclose]
    rfl
  | cons hs hrest =>
    have hitems := bare_items?_texts (.cons hs hrest) (List.cons_ne_nil _ _) hgap
    split
    · next q hclose => exact absurd hclose (ne_close_of_items? hitems q)
    · rw [hitems]
      rfl

end DocSearch.Json
