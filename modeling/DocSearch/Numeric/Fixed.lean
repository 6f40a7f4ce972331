import DocSearch.Numeric.Positional

/-!
# A fixed number of places

A floating point number is rounded to a number of places behind the point. What is rounded is its
exact value; a half goes to the even neighbour.
-/

namespace DocSearch.Decimal

/-- The quotient rounded to the nearest natural number, a half to the even one. -/
def roundQuotient (num den : Nat) : Nat :=
  let below := num / den
  let rest := 2 * (num % den)
  if rest < den then below
  else if den < rest then below + 1
  else if below % 2 = 0 then below else below + 1

/-- A finite number without its sign, with a number of places behind the point. -/
def fixedFinite (places : Nat) (x : Binary64) : String :=
  let (num, den) := onGrid x.significand x.binaryExponent (-(places : Int))
  positional (roundQuotient num den) places

/-- A number with a number of places behind the point. -/
def fixed (places : Nat) (x : Binary64) : String := render (fixedFinite places) x

end DocSearch.Decimal
