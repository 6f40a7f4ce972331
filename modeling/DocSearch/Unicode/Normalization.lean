import DocSearch.Unicode.CombiningClass
import DocSearch.Unicode.Composition
import DocSearch.Unicode.Decomposition

/-!
# Normalization form KC

Three stages: every character is replaced by its full compatibility decomposition, each run of
marks is sorted by combining class, and what can be composed again is composed. A character
composes with the starter before it unless a mark in between blocks it, that is unless the last
mark kept since the starter has at least its class.
-/

namespace DocSearch.Unicode

/-- Puts a character with its class in front of a text whose marks are in order: behind the marks
of smaller class that the text starts with. -/
def insertMark (m : Char × Nat) : List (Char × Nat) → List (Char × Nat)
  | [] => [m]
  | n :: ns => if 0 < n.2 ∧ n.2 < m.2 then n :: insertMark m ns else m :: n :: ns

/-- The characters with their classes, each run of marks sorted by class. Marks of one class stay
in order. -/
def orderMarks (cs : List Char) : List (Char × Nat) :=
  cs.foldr (fun c ordered => insertMark (c, combiningClass c) ordered) []

/-- Composes the rest of a text behind the starter `s`. The reversed list `kept` holds the marks
since the starter that did not compose, and `last` the class of the last of them, 0 if there is
none. -/
def composeAfter (s : Char) (kept : List Char) (last : Nat) : List (Char × Nat) → List Char
  | [] => s :: kept.reverse
  | (c, k) :: rest =>
    match if last = 0 ∨ last < k then compose? s c else none with
    | some r => composeAfter r kept last rest
    | none =>
      if k = 0 then s :: (kept.reverse ++ composeAfter c [] 0 rest)
      else composeAfter s (c :: kept) k rest

/-- Composes a text whose marks are in order. -/
def recompose : List (Char × Nat) → List Char
  | [] => []
  | (c, k) :: rest => if k = 0 then composeAfter c [] 0 rest else c :: recompose rest

/-- The normalization form KC of a text. -/
def nfkc (text : String) : String :=
  String.ofList (recompose (orderMarks (text.toList.flatMap decompose)))

end DocSearch.Unicode
