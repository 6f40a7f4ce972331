/-!
# Numbers in JSON

A number is kept as it is written: sign, digits in front of and behind the point, exponent. Two
questions are asked of it: whether it is a natural number, and whether it lies in the range of the
64-bit floating point numbers when it is scaled the quick way: as many digits as fit a 64-bit word
make an integer, which is then multiplied by a power of ten.
-/

namespace DocSearch.Json

/-- The character is a decimal digit. -/
def isDigit (c : Char) : Bool := '0' ≤ c && c ≤ '9'

/-- The value of a decimal digit. -/
def digitValue (c : Char) : Nat := c.toNat - 48

/-- The number that a run of decimal digits writes. -/
def decimal (digits : List Char) : Nat :=
  digits.foldl (fun n c => 10 * n + digitValue c) 0

/-- An exponent as it is written. -/
structure Exponent where
  /-- A minus sign stands in front. -/
  negative : Bool
  /-- The digits, at least one. -/
  digits : List Char
deriving DecidableEq, Repr

/-- A number as it is written. -/
structure Numeral where
  /-- A minus sign stands in front. -/
  negative : Bool
  /-- The digits in front of the point, at least one. -/
  integer : List Char
  /-- The digits behind the point, if there is a point. -/
  fraction : Option (List Char)
  /-- The exponent, if there is one. -/
  exponent : Option Exponent
deriving DecidableEq, Repr

namespace Numeral

/-- The natural number that is written, if it is written with digits alone. -/
def natural? (n : Numeral) : Option Nat :=
  match n with
  | ⟨false, digits, none, none⟩ => some (decimal digits)
  | _ => none

/-- The largest number of a 64-bit word. -/
def maxWord : Nat := 0xffffffffffffffff

/-- An integer of at most 64 bits and a power of ten that scales it. -/
structure Scaled where
  /-- The integer. -/
  word : Nat
  /-- The exponent of ten. -/
  power : Int
  /-- A digit did not fit. -/
  full : Bool
deriving DecidableEq, Repr

/-- Appends a digit in front of the point. From the first one that does not fit on, digits only
raise the power. -/
def Scaled.pushInteger (x : Scaled) (c : Char) : Scaled :=
  let w := 10 * x.word + digitValue c
  if x.full || maxWord < w then { x with power := x.power + 1, full := true }
  else { x with word := w }

/-- Appends a digit behind the point. The first one that does not fit is dropped, and so are all
behind it. -/
def Scaled.pushFraction (x : Scaled) (c : Char) : Scaled :=
  let w := 10 * x.word + digitValue c
  if x.full || maxWord < w then { x with full := true }
  else { x with word := w, power := x.power - 1 }

/-- The digits of a numeral as a scaled word. -/
def scaled (n : Numeral) : Scaled :=
  let x := n.integer.foldl Scaled.pushInteger ⟨0, 0, false⟩
  (n.fraction.getD []).foldl Scaled.pushFraction { x with full := false }

/-- Multiplying a word by a power of ten in floating point gives a finite number. -/
def scalesFinitely (word : Nat) (power : Int) : Bool :=
  if power ≤ 0 then true
  else if power ≤ 308 then
    (Float.ofNat word * Float.ofScientific 1 false power.toNat).isFinite
  else word = 0

/-- The largest exponent that is counted; beyond it only its sign matters. -/
def maxExponent : Nat := 0x7fffffff

/-- The number lies in the range of the 64-bit floating point numbers. -/
def inRange (n : Numeral) : Bool :=
  let x := n.scaled
  match n.exponent with
  | none => scalesFinitely x.word x.power
  | some e =>
    let k := decimal e.digits
    if maxExponent < k then e.negative || x.word = 0
    else scalesFinitely x.word (if e.negative then x.power - k else x.power + k)

end Numeral

end DocSearch.Json
