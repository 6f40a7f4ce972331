import Mathlib.Tactic.Lemma
import DocSearch.Unicode.Composition

/-!
# Look-ups in tables of code points

A look-up walks up a table and stops at the first range beyond the code point, so the first rows of
the table tell what it finds. Rows are given letter by letter for that (`Begins`), since texts are
slow to take apart.
-/

namespace DocSearch.Unicode

variable {α β : Type} {rows : List String} {letters : List (List Char)} {q : CodeRange}
  {n : Nat}

/-- The first rows of a table, letter by letter. -/
inductive Begins : List String → List (List Char) → Prop
  /-- The other rows are left out. -/
  | done (rows : List String) : Begins rows []
  /-- One more row. -/
  | row {s : String} {cs : List Char} {rows : List String} {letters : List (List Char)}
      (hs : s = String.ofList cs) (h : Begins rows letters) : Begins (s :: rows) (cs :: letters)

namespace Begins

/-- Rows that begin the table have a property. In a proof they come out of the first hypothesis. -/
lemma intro {P : List (List Char) → Prop} (h : Begins rows letters) (hp : P letters) :
    ∃ letters, Begins rows letters ∧ P letters :=
  ⟨letters, h, hp⟩

lemma exists_flatMap (h : Begins rows letters) (f : List Char → List β) :
    ∃ more, rows.flatMap (fun row => f row.toList) = letters.flatMap f ++ more := by
  induction h with
  | done rows => exact ⟨_, rfl⟩
  | row hs _ ih =>
    obtain ⟨more, hmore⟩ := ih
    refine ⟨more, ?_⟩
    rw [List.flatMap_cons, List.flatMap_cons, hmore, hs, String.toList_ofList, List.append_assoc]

end Begins

/-! ## Ranges -/

namespace CodeRange

/-- The code point lies between the first and the last one of the range. -/
def Spans (r : CodeRange) (n : Nat) : Prop := r.first ≤ n ∧ n ≤ r.last

instance (r : CodeRange) (n : Nat) : Decidable (r.Spans n) :=
  inferInstanceAs (Decidable (r.first ≤ n ∧ n ≤ r.last))

/-- The ranges of a row. -/
def readRow (row : List Char) : List CodeRange := (fields ' ' row).map ofText

/-- The ranges settle that all code points that `q` spans are in the table, or that none is. -/
def settle? (q : CodeRange) : List CodeRange → Option Bool
  | [] => none
  | r :: rs =>
    if q.last < r.first then some false
    else if r.first ≤ q.first ∧ q.last ≤ r.last then some true
    else if r.first ≤ q.first ∧ r.last < q.first then settle? q rs
    else none

lemma anyContains_append {b : Bool} {rs : List CodeRange} (h : settle? q rs = some b)
    (hn : q.Spans n) (more : List CodeRange) : anyContains (rs ++ more) n = b := by
  obtain ⟨hfirst, hlast⟩ := hn
  induction rs with
  | nil => exact absurd h (by simp [settle?])
  | cons r rs ih =>
    rw [settle?] at h
    rw [List.cons_append, anyContains]
    -- The range lies beyond `q`, around it or before it; one that overlaps it settles nothing.
    split at h
    · rw [if_pos (by omega)]
      exact Option.some.inj h
    · split at h
      · rw [if_neg (by omega), if_pos (by omega)]
        exact Option.some.inj h
      · split at h
        · rw [if_neg (by omega), if_neg (by omega)]
          exact ih h
        · exact absurd h (by simp)

/-- The first rows of a table settle for each of some ranges whether it is in the table. -/
def Settles (rows : List String) (answers : List (CodeRange × Bool)) : Prop :=
  ∃ letters, Begins rows letters ∧
    ∀ e ∈ answers, settle? e.1 (letters.flatMap readRow) = some e.2

/-- What the first rows settle holds of the table. -/
lemma Settles.anyContains {b : Bool} {answers : List (CodeRange × Bool)} (h : Settles rows answers)
    (hq : (q, b) ∈ answers) (hn : q.Spans n) : anyContains (table rows) n = b := by
  obtain ⟨letters, hrows, hsettled⟩ := h
  obtain ⟨more, hmore⟩ : ∃ more, table rows = letters.flatMap readRow ++ more :=
    hrows.exists_flatMap readRow
  rw [hmore]
  exact anyContains_append (hsettled _ hq) hn more

/-- A code point that is found lies in a range. -/
lemma exists_of_anyContains {rs : List CodeRange} (h : anyContains rs n = true) :
    ∃ r ∈ rs, r.Spans n := by
  induction rs with
  | nil => exact absurd h (by simp [anyContains])
  | cons r rs ih =>
    rw [anyContains] at h
    split at h
    · exact absurd h (by simp)
    · next hlt =>
      split at h
      · next hle => exact ⟨r, List.mem_cons_self, Nat.le_of_not_lt hlt, hle⟩
      · obtain ⟨r', hr', hn⟩ := ih h
        exact ⟨r', List.mem_cons_of_mem r hr', hn⟩

end CodeRange

/-! ## Entries with values -/

namespace Assigned

/-- The entries settle that the table has none for the code points that `q` spans. -/
def misses (q : CodeRange) : List (Assigned α) → Bool
  | [] => false
  | e :: es => q.last < e.range.first || (e.range.last < q.first && misses q es)

lemma find?_append {es : List (Assigned α)} (h : misses q es = true) (hn : q.Spans n)
    (more : List (Assigned α)) : find? (es ++ more) n = none := by
  obtain ⟨hfirst, hlast⟩ := hn
  induction es with
  | nil => exact absurd h (by simp [misses])
  | cons e es ih =>
    simp only [misses, Bool.or_eq_true, Bool.and_eq_true, decide_eq_true_eq] at h
    rw [List.cons_append, find?]
    rcases h with hbeyond | ⟨hbefore, hmisses⟩
    · rw [if_pos (by omega)]
    · split
      · rfl
      · rw [if_neg (by omega)]
        exact ih hmisses

/-- The entries of a row. -/
def readRow (range : List Char → CodeRange) (value : List Char → α) (row : List Char) :
    List (Assigned α) :=
  (fields ' ' row).filterMap fun entry =>
    match fields '=' entry with
    | [r, v] => some ⟨range r, value v⟩
    | _ => none

/-- The first rows of a table settle that it has no entries for some ranges. -/
def Misses (range : List Char → CodeRange) (value : List Char → α) (rows : List String)
    (qs : List CodeRange) : Prop :=
  ∃ letters, Begins rows letters ∧
    ∀ q ∈ qs, misses q (letters.flatMap (readRow range value)) = true

/-- What the first rows settle holds of the table. -/
lemma Misses.find? {range : List Char → CodeRange} {value : List Char → α} {qs : List CodeRange}
    (h : Misses range value rows qs) (hq : q ∈ qs) (hn : q.Spans n) :
    find? (table range value rows) n = none := by
  obtain ⟨letters, hrows, hmisses⟩ := h
  obtain ⟨more, hmore⟩ : ∃ more, table range value rows =
      letters.flatMap (readRow range value) ++ more := hrows.exists_flatMap (readRow range value)
  rw [hmore]
  exact find?_append (hmisses q hq) hn more

end Assigned

/-! ## Composites -/

/-- The entries settle that the code points that `q` spans are first in no composite. -/
def missesComposite (q : CodeRange) : List (Assigned (Nat × Nat)) → Bool
  | [] => false
  | e :: es => q.last < e.range.first || (e.range.first < q.first && missesComposite q es)

lemma findComposite_append {es : List (Assigned (Nat × Nat))} (h : missesComposite q es = true)
    (hn : q.Spans n) (b : Nat) (more : List (Assigned (Nat × Nat))) :
    findComposite n b (es ++ more) = none := by
  obtain ⟨hfirst, hlast⟩ := hn
  induction es with
  | nil => exact absurd h (by simp [missesComposite])
  | cons e es ih =>
    simp only [missesComposite, Bool.or_eq_true, Bool.and_eq_true, decide_eq_true_eq] at h
    rw [List.cons_append, findComposite]
    rcases h with hbeyond | ⟨hbefore, hmisses⟩
    · rw [if_pos (by omega)]
    · split
      · rfl
      · rw [if_neg (by omega)]
        exact ih hmisses

/-- The entries of a row of composites. -/
def readComposites (row : List Char) : List (Assigned (Nat × Nat)) :=
  (fields ' ' row).filterMap fun entry =>
    match fields '=' entry with
    | [pair, composite] =>
      match (fields '.' pair).map codePoint with
      | [a, b] => some ⟨⟨a, a, 1⟩, (b, codePoint composite)⟩
      | _ => none
    | _ => none

/-- The first rows of the table settle that some ranges begin no composites. -/
def MissesComposites (qs : List CodeRange) : Prop :=
  ∃ letters, Begins compositionRows letters ∧
    ∀ q ∈ qs, missesComposite q (letters.flatMap readComposites) = true

/-- What the first rows settle holds of all composites. -/
lemma MissesComposites.findComposite {qs : List CodeRange} (h : MissesComposites qs) (hq : q ∈ qs)
    (hn : q.Spans n) (b : Nat) : findComposite n b compositionEntries = none := by
  obtain ⟨letters, hrows, hmisses⟩ := h
  obtain ⟨more, hmore⟩ : ∃ more, compositionEntries = letters.flatMap readComposites ++ more :=
    hrows.exists_flatMap readComposites
  rw [hmore]
  exact findComposite_append (hmisses q hq) hn b more

end DocSearch.Unicode
