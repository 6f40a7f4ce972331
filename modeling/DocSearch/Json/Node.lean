import DocSearch.Json.Numeral

/-!
# JSON texts

A JSON text is read into a tree that still knows everything that two readers may see differently:
repeated members, numbers of any size, and strings with escapes of unpaired surrogates, which
stand for no text. Reading follows the grammar of JSON: blanks are space, tab, line feed and
carriage return, control characters in strings have to be escaped, and nothing but blanks may
follow the value.

Each reading function returns what it has read and the rest of the text, which is shorter; this is
what makes the recursion end.
-/

namespace DocSearch.Json

/-- A JSON value as it is written. -/
inductive Node where
  /-- The literal `null`. -/
  | null
  /-- A truth value. -/
  | bool (b : Bool)
  /-- A number. -/
  | number (n : Numeral)
  /-- A string, or nothing if it has an unpaired surrogate. -/
  | string (text : Option String)
  /-- A list of values. -/
  | array (items : List Node)
  /-- Names with their values, in order and with repetitions. -/
  | object (members : List (Option String × Node))
deriving Repr

/-- What is left of a text when something was read from its front. -/
abbrev Rest (s : List Char) := { r : List Char // r.length < s.length }

/-- The character is a blank of JSON. -/
def isBlank (c : Char) : Bool := c = ' ' || c = '\t' || c = '\n' || c = '\r'

/-- The text without the blanks at its start. -/
def skipBlank (s : List Char) : List Char := s.dropWhile isBlank

theorem length_skipBlank_le (s : List Char) : (skipBlank s).length ≤ s.length :=
  (List.dropWhile_sublist isBlank).length_le

theorem length_dropWhile_lt {p : Char → Bool} {s : List Char} (h : s.takeWhile p ≠ []) :
    (s.dropWhile p).length < s.length := by
  cases s with
  | nil => simp at h
  | cons c s =>
    rw [List.takeWhile_cons] at h
    rw [List.dropWhile_cons]
    split at h
    · rename_i hc
      simp only [hc, if_true, List.length_cons]
      exact Nat.lt_succ_of_le (List.dropWhile_sublist p).length_le
    · simp at h

/-! ## Strings -/

/-- The value of a hexadecimal digit in either case. -/
def hexDigit? (c : Char) : Option Nat :=
  if '0' ≤ c ∧ c ≤ '9' then some (c.toNat - 48)
  else if 'a' ≤ c ∧ c ≤ 'f' then some (c.toNat - 87)
  else if 'A' ≤ c ∧ c ≤ 'F' then some (c.toNat - 55)
  else none

/-- The number written by four hexadecimal digits. -/
def hexWord? (a b c d : Char) : Option Nat :=
  match hexDigit? a, hexDigit? b, hexDigit? c, hexDigit? d with
  | some i, some j, some k, some l => some (((i * 16 + j) * 16 + k) * 16 + l)
  | _, _, _, _ => none

/-- The character that a letter stands for behind a backslash. -/
def unescape? (c : Char) : Option Char :=
  match c with
  | '"' => some '"'
  | '\\' => some '\\'
  | '/' => some '/'
  | 'b' => some '\x08'
  | 'f' => some '\x0c'
  | 'n' => some '\n'
  | 'r' => some '\r'
  | 't' => some '\t'
  | _ => none

/-- The first of the two surrogates that stand for a character. -/
def isLead (u : Nat) : Bool := 0xD800 ≤ u && u < 0xDC00

/-- The second of the two surrogates that stand for a character. -/
def isTrail (u : Nat) : Bool := 0xDC00 ≤ u && u < 0xE000

/-- The characters of a string given by code points in which a pair of surrogates counts as one;
nothing if a surrogate is unpaired. -/
def pairSurrogates : List Nat → Option (List Char)
  | [] => some []
  | [u] => if isLead u || isTrail u then none else some [Char.ofNat u]
  | u :: v :: us =>
    if isLead u then
      if isTrail v then
        (pairSurrogates us).map (Char.ofNat (0x10000 + (u - 0xD800) * 0x400 + (v - 0xDC00)) :: ·)
      else none
    else if isTrail u then none
    else (pairSurrogates (v :: us)).map (Char.ofNat u :: ·)

/-- Reads a string behind its opening quote, as code points and surrogates. -/
def quoted (s : List Char) : Option (List Nat × Rest s) :=
  match s with
  | [] => none
  | '"' :: r => some ([], ⟨r, by simp⟩)
  | '\\' :: 'u' :: a :: b :: c :: d :: r =>
    match hexWord? a b c d, quoted r with
    | some u, some (us, q) =>
      some (u :: us, ⟨q.1, by have := q.2; simp only [List.length_cons]; omega⟩)
    | _, _ => none
  | '\\' :: e :: r =>
    match unescape? e, quoted r with
    | some x, some (us, q) =>
      some (x.toNat :: us, ⟨q.1, Nat.lt_succ_of_lt (Nat.lt_succ_of_lt q.2)⟩)
    | _, _ => none
  | c :: r =>
    if c = '\\' ∨ c.toNat < 0x20 then none
    else
      match quoted r with
      | some (us, q) => some (c.toNat :: us, ⟨q.1, Nat.lt_succ_of_lt q.2⟩)
      | none => none

/-- The text of a string that was read as code points and surrogates. -/
def stringOf (units : List Nat) : Option String :=
  (pairSurrogates units).map String.ofList

/-! ## Numbers -/

/-- Reads an optional group of digits behind a mark: absent if the mark is, refused if no digit
follows it. -/
def fraction? (s : List Char) :
    Option (Option (List Char) × { r : List Char // r.length ≤ s.length }) :=
  match s with
  | '.' :: r =>
    if r.takeWhile isDigit = [] then none
    else some (some (r.takeWhile isDigit),
      ⟨r.dropWhile isDigit, Nat.le_succ_of_le (List.dropWhile_sublist isDigit).length_le⟩)
  | t => some (none, ⟨t, Nat.le_refl _⟩)

/-- Reads the digits of an exponent. -/
def exponentDigits? (negative : Bool) (s : List Char) :
    Option (Exponent × { r : List Char // r.length ≤ s.length }) :=
  if s.takeWhile isDigit = [] then none
  else some (⟨negative, s.takeWhile isDigit⟩,
    ⟨s.dropWhile isDigit, (List.dropWhile_sublist isDigit).length_le⟩)

/-- Reads an optional exponent. -/
def exponent? (s : List Char) :
    Option (Option Exponent × { r : List Char // r.length ≤ s.length }) :=
  match s with
  | c :: r =>
    if c = 'e' ∨ c = 'E' then
      match r with
      | '+' :: q =>
        (exponentDigits? false q).map fun (e, t) =>
          (some e, ⟨t.1, by have := t.2; simp only [List.length_cons]; omega⟩)
      | '-' :: q =>
        (exponentDigits? true q).map fun (e, t) =>
          (some e, ⟨t.1, by have := t.2; simp only [List.length_cons]; omega⟩)
      | q =>
        (exponentDigits? false q).map fun (e, t) =>
          (some e, ⟨t.1, by have := t.2; simp only [List.length_cons]; omega⟩)
    else some (none, ⟨c :: r, Nat.le_refl _⟩)
  | [] => some (none, ⟨[], Nat.le_refl _⟩)

/-- The digits in front of a point are well formed: there is one, and only a lone zero leads. -/
def isInteger (digits : List Char) : Bool :=
  match digits with
  | [] => false
  | '0' :: _ :: _ => false
  | _ => true

/-- Reads a number without its sign. -/
def unsigned? (negative : Bool) (s : List Char) : Option (Numeral × Rest s) :=
  if h : s.takeWhile isDigit = [] then none
  else if isInteger (s.takeWhile isDigit) then
    match fraction? (s.dropWhile isDigit) with
    | none => none
    | some (f, p) =>
      match exponent? p.1 with
      | none => none
      | some (e, q) =>
        some (⟨negative, s.takeWhile isDigit, f, e⟩,
          ⟨q.1, by have := length_dropWhile_lt h; have := p.2; have := q.2; omega⟩)
  else none

/-- Reads a number. -/
def numeral? (s : List Char) : Option (Numeral × Rest s) :=
  match s with
  | '-' :: r =>
    (unsigned? true r).map fun (n, q) =>
      (n, ⟨q.1, by have := q.2; simp only [List.length_cons]; omega⟩)
  | t => unsigned? false t

/-! ## Values -/

mutual

/-- Reads a value. -/
def value? (s : List Char) : Option (Node × Rest s) :=
  have hs := length_skipBlank_le s
  match h : skipBlank s with
  | 'n' :: 'u' :: 'l' :: 'l' :: r =>
    some (.null, ⟨r, by rw [h] at hs; simp only [List.length_cons] at hs; omega⟩)
  | 't' :: 'r' :: 'u' :: 'e' :: r =>
    some (.bool true, ⟨r, by rw [h] at hs; simp only [List.length_cons] at hs; omega⟩)
  | 'f' :: 'a' :: 'l' :: 's' :: 'e' :: r =>
    some (.bool false, ⟨r, by rw [h] at hs; simp only [List.length_cons] at hs; omega⟩)
  | '"' :: r =>
    match quoted r with
    | some (units, q) =>
      some (.string (stringOf units),
        ⟨q.1, by have := q.2; rw [h] at hs; simp only [List.length_cons] at hs; omega⟩)
    | none => none
  | '[' :: r =>
    match hr : skipBlank r with
    | ']' :: q =>
      some (.array [], ⟨q, by
        have := length_skipBlank_le r
        rw [h] at hs; rw [hr] at this; simp only [List.length_cons] at hs this; omega⟩)
    | _ =>
      match items? r with
      | some (items, q) =>
        some (.array items,
          ⟨q.1, by have := q.2; rw [h] at hs; simp only [List.length_cons] at hs; omega⟩)
      | none => none
  | '{' :: r =>
    match hr : skipBlank r with
    | '}' :: q =>
      some (.object [], ⟨q, by
        have := length_skipBlank_le r
        rw [h] at hs; rw [hr] at this; simp only [List.length_cons] at hs this; omega⟩)
    | _ =>
      match members? r with
      | some (members, q) =>
        some (.object members,
          ⟨q.1, by have := q.2; rw [h] at hs; simp only [List.length_cons] at hs; omega⟩)
      | none => none
  | t =>
    (numeral? t).map fun (n, q) => (.number n, ⟨q.1, by have := q.2; rw [h] at hs; omega⟩)
termination_by 2 * s.length
decreasing_by
  all_goals (rw [h] at hs; simp only [List.length_cons] at hs; omega)

/-- Reads the items of an array and its closing bracket. -/
def items? (s : List Char) : Option (List Node × Rest s) :=
  match value? s with
  | none => none
  | some (v, p) =>
    have hp := length_skipBlank_le p.1
    match h : skipBlank p.1 with
    | ']' :: r =>
      some ([v], ⟨r, by
        have := p.2; rw [h] at hp; simp only [List.length_cons] at hp; omega⟩)
    | ',' :: r =>
      match items? r with
      | some (vs, q) =>
        some (v :: vs, ⟨q.1, by
          have := p.2; have := q.2; rw [h] at hp; simp only [List.length_cons] at hp; omega⟩)
      | none => none
    | _ => none
termination_by 2 * s.length + 1
decreasing_by
  · omega
  · have := p.2; rw [h] at hp; simp only [List.length_cons] at hp; omega

/-- Reads the members of an object and its closing brace. -/
def members? (s : List Char) : Option (List (Option String × Node) × Rest s) :=
  have hs := length_skipBlank_le s
  match h : skipBlank s with
  | '"' :: r =>
    match quoted r with
    | none => none
    | some (units, k) =>
      have hk := length_skipBlank_le k.1
      match hc : skipBlank k.1 with
      | ':' :: t =>
        match value? t with
        | none => none
        | some (v, p) =>
          have hp := length_skipBlank_le p.1
          match hd : skipBlank p.1 with
          | '}' :: q =>
            some ([(stringOf units, v)], ⟨q, by
              have := k.2; have := p.2
              rw [h] at hs; rw [hc] at hk; rw [hd] at hp
              simp only [List.length_cons] at hs hk hp; omega⟩)
          | ',' :: q =>
            match members? q with
            | some (ms, z) =>
              some ((stringOf units, v) :: ms, ⟨z.1, by
                have := k.2; have := p.2; have := z.2
                rw [h] at hs; rw [hc] at hk; rw [hd] at hp
                simp only [List.length_cons] at hs hk hp; omega⟩)
            | none => none
          | _ => none
      | _ => none
  | _ => none
termination_by 2 * s.length + 1
decreasing_by
  · have := k.2
    rw [h] at hs; rw [hc] at hk; simp only [List.length_cons] at hs hk; omega
  · have := k.2; have := p.2
    rw [h] at hs; rw [hc] at hk; rw [hd] at hp
    simp only [List.length_cons] at hs hk hp; omega

end

/-- The value that a JSON text writes. -/
def Node.ofText? (text : List Char) : Option Node :=
  match value? text with
  | some (v, r) => if skipBlank r.1 = [] then some v else none
  | none => none

end DocSearch.Json
