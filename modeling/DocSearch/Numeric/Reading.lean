import DocSearch.Json.Numeral
import DocSearch.Numeric.Binary64

/-!
# Reading numbers

A number is written as digits with an optional point among or around them, an optional exponent and
an optional sign; infinity and what is not a number are written as words. The number read is the
nearest to what is written.
-/

namespace DocSearch.Decimal

open Json (isDigit)

/-- Takes a sign from the front of a text. -/
def takeSign : List Char → Bool × List Char
  | '-' :: r => (true, r)
  | '+' :: r => (false, r)
  | s => (false, s)

/-- The exponent written behind the digits of a number; zero if nothing is written. -/
def exponentOf? : List Char → Option Int
  | [] => some 0
  | e :: r =>
    if e = 'e' ∨ e = 'E' then
      let (negative, ds) := takeSign r
      if ds ≠ [] ∧ ds.all isDigit then
        some (if negative then -(Json.decimal ds : Int) else Json.decimal ds)
      else none
    else none

/-- Takes the digits behind a point from the front of a text. -/
def takeFraction : List Char → List Char × List Char
  | '.' :: r => (r.takeWhile isDigit, r.dropWhile isDigit)
  | s => ([], s)

/-- Beyond this power of ten a number is infinite, and below its inverse zero. -/
def powerLimit : Nat := 400

/-- The number nearest to `n * 10 ^ p`, where `n` has `count` digits. -/
def nearest (n count : Nat) (p : Int) : Binary64 :=
  if n = 0 then ⟨0⟩
  else if powerLimit < p + count then Binary64.infinity
  else if p + count < -powerLimit then ⟨0⟩
  else Binary64.ofFloat (Float.ofScientific n (p < 0) p.natAbs)

/-- The number that digits, point and exponent write. -/
def ofDigits? (s : List Char) : Option Binary64 :=
  let whole := s.takeWhile isDigit
  let (fraction, rest) := takeFraction (s.dropWhile isDigit)
  if whole = [] ∧ fraction = [] then none
  else
    (exponentOf? rest).map fun e =>
      let ds := whole ++ fraction
      nearest (Json.decimal ds) (ds.dropWhile (· = '0')).length (e - fraction.length)

/-- The number that a text without a sign writes. -/
def ofUnsigned? (s : List Char) : Option Binary64 :=
  let word := String.ofList (s.map Char.toLower)
  if word = "inf" ∨ word = "infinity" then some Binary64.infinity
  else if word = "nan" then some Binary64.nan
  else ofDigits? s

/-- The number that a text writes. -/
def ofText? (s : String) : Option Binary64 :=
  let (negative, r) := takeSign s.toList
  (ofUnsigned? r).map fun x => if negative then x.negate else x

end DocSearch.Decimal
