import DocSearch.Numeric.Binary64

/-!
# Exact values and positional notation

A finite floating point number is `m * 2 ^ q` for a natural number `m`. On a grid of decimals, the
multiples of a power of ten, it is a quotient of natural numbers, which is all that is needed to
round it without error. A multiple of a power of ten is written by its digits and a point.
-/

namespace DocSearch

namespace Binary64

/-- The value of the lowest bit of the exponent, above which the fraction does not reach. -/
def exponentUnit : Nat := 0x10000000000000

/-- The bits of the fraction. -/
def fractionBits (x : Binary64) : Nat := x.magnitude % exponentUnit

/-- The bits of the exponent. -/
def exponentBits (x : Binary64) : Nat := x.magnitude / exponentUnit

/-- The number `m` of which a finite number is a multiple by a power of two, without its sign. -/
def significand (x : Binary64) : Nat :=
  if x.exponentBits = 0 then x.fractionBits else exponentUnit + x.fractionBits

/-- The power of two of which a finite number is a multiple. -/
def binaryExponent (x : Binary64) : Int :=
  if x.exponentBits = 0 then -1074 else x.exponentBits - 1075

/-- The number and the next one toward zero lie closer together than it and the next one away from
zero. -/
def narrowBelow (x : Binary64) : Bool := x.fractionBits = 0 && 1 < x.exponentBits

end Binary64

namespace Decimal

/-- A power of two, one if the exponent is negative. -/
def powerOfTwo (q : Int) : Nat := Nat.pow 2 q.toNat

/-- A power of ten, one if the exponent is negative. -/
def powerOfTen (p : Int) : Nat := Nat.pow 10 p.toNat

/-- Numerator and denominator of `m * 2 ^ q`, counted in units of `10 ^ p`. -/
def onGrid (m : Nat) (q p : Int) : Nat × Nat :=
  (m * powerOfTwo q * powerOfTen (-p), powerOfTwo (-q) * powerOfTen p)

/-- The decimal digits of a natural number. -/
def digits (n : Nat) : List Char := (toString n).toList

/-- A multiple of `10 ^ -places` in positional notation, with as many digits behind the point. -/
def positional (n places : Nat) : String :=
  let ds := digits n
  let padded := List.replicate (places + 1 - ds.length) '0' ++ ds
  let whole := padded.length - places
  if places = 0 then String.ofList padded
  else String.ofList (padded.take whole ++ '.' :: padded.drop whole)

/-- A text behind the sign of a number. -/
def signed (x : Binary64) (s : String) : String := if x.isNegative then "-" ++ s else s

/-- The text of a number, given the text of a finite number without its sign. -/
def render (finite : Binary64 → String) (x : Binary64) : String :=
  if x.isNaN then "NaN"
  else if x.magnitude = Binary64.infinityMagnitude then signed x "inf"
  else signed x (finite x)

end Decimal

end DocSearch
