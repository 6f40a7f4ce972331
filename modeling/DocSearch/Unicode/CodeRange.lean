/-!
# Tables of code points

Character properties are written down as rows of text in hexadecimal, ascending and without
overlaps: `0041-005A 00AA` names the code points from U+0041 to U+005A and U+00AA, and
`0100~012E` every second code point from U+0100 to U+012E. An entry may carry a value behind an
equals sign. This file reads such rows and looks code points up in them. A look-up walks up the
table and stops at the first range that lies beyond the code point.
-/

namespace DocSearch.Unicode

/-- The value of a hexadecimal digit, its letters in upper case. -/
def hexValue (c : Char) : Nat :=
  if c.toNat < 0x3A then c.toNat - 0x30 else c.toNat - 0x37

/-- The number that a run of hexadecimal digits writes. -/
def codePoint (digits : List Char) : Nat :=
  digits.foldl (fun n c => 16 * n + hexValue c) 0

/-- The pieces of a text between the occurrences of a separator. -/
def fields (sep : Char) : List Char → List (List Char)
  | [] => [[]]
  | c :: cs =>
    match fields sep cs with
    | [] => [[c]]
    | piece :: pieces => if c = sep then [] :: piece :: pieces else (c :: piece) :: pieces

/-- The code points from `first` to `last` in steps of `step`. -/
structure CodeRange where
  /-- The least member. -/
  first : Nat
  /-- The greatest member. -/
  last : Nat
  /-- The distance of neighbouring members, 1 or 2. -/
  step : Nat
deriving DecidableEq, Repr

namespace CodeRange

/-- Reads one range: `a`, `a-b` or `a~b`. -/
def ofText (text : List Char) : CodeRange :=
  match fields '-' text with
  | [a, b] => ⟨codePoint a, codePoint b, 1⟩
  | _ =>
    match fields '~' text with
    | [a, b] => ⟨codePoint a, codePoint b, 2⟩
    | _ => ⟨codePoint text, codePoint text, 1⟩

/-- The ranges written in rows of text. -/
def table (rows : List String) : List CodeRange :=
  rows.flatMap fun row => (fields ' ' row.toList).map ofText

/-- Some range of an ascending list contains the code point. -/
def anyContains : List CodeRange → Nat → Bool
  | [], _ => false
  | r :: rs, n => if n < r.first then false else if n ≤ r.last then true else anyContains rs n

end CodeRange

/-- A range of code points and what a table assigns to it. -/
structure Assigned (α : Type) where
  /-- The code points that the value is assigned to. -/
  range : CodeRange
  /-- The value assigned. -/
  value : α
deriving Repr

namespace Assigned

variable {α : Type}

/-- The entries `range=value` written in rows of text. -/
def table (range : List Char → CodeRange) (value : List Char → α) (rows : List String) :
    List (Assigned α) :=
  rows.flatMap fun row => (fields ' ' row.toList).filterMap fun entry =>
    match fields '=' entry with
    | [r, v] => some ⟨range r, value v⟩
    | _ => none

/-- The entry of an ascending table whose range contains the code point. -/
def find? : List (Assigned α) → Nat → Option (Assigned α)
  | [], _ => none
  | e :: es, n =>
    if n < e.range.first then none
    else if n ≤ e.range.last then
      if (n - e.range.first) % e.range.step = 0 then some e else none
    else find? es n

end Assigned

end DocSearch.Unicode
