/-!
# Numbers for scores and ratings

Scores and ratings are computed over any kind of number with the operations of floating point
arithmetic. Formulas are written once, over `Scalar`, and hold their value for every instance; the
program runs them on `Binary64`.

A sum starts from negative zero, which is neutral for addition even of zeros.
-/

namespace DocSearch

/-- Numbers with the operations that scores and ratings need. -/
class Scalar (α : Type) extends Add α, Sub α, Mul α, Div α where
  /-- The number nearest to a natural number. -/
  ofNat : Nat → α
  /-- The neutral element of addition. -/
  negZero : α
  /-- The square root. -/
  sqrt : α → α
  /-- The logarithm to base two. -/
  log2 : α → α
  /-- The larger number; the other operand if one is not a number. -/
  max : α → α → α
  /-- The smaller number; the other operand if one is not a number. -/
  min : α → α → α
  /-- The number is zero, of either sign. -/
  isZero : α → Bool
  /-- The first number is less than the second; denied if one is not a number. -/
  lt : α → α → Bool
  /-- A linear order of all numbers, also of zeros of different sign and of what is not a number. -/
  totalCompare : α → α → Ordering

namespace Scalar

variable {α : Type} [Scalar α]

/-- The number zero. -/
def zero : α := ofNat 0

/-- The number one. -/
def one : α := ofNat 1

/-- The square of a number. -/
def square (x : α) : α := x * x

/-- The sum of a list, added up from the left. -/
def sum (xs : List α) : α := xs.foldl (· + ·) negZero

end Scalar

end DocSearch
