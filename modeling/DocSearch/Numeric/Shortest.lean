import DocSearch.Numeric.Positional

/-!
# The fewest digits

A floating point number is written with the fewest digits that are read as the same number. The
reals that are read as it form an interval, whose ends belong to it if the significand is even; the
first grid of decimals, from the coarsest on, that meets the interval has the digits. Of two
decimals in the interval the nearer one is taken, of two equally near ones the larger.
-/

namespace DocSearch.Decimal

/-- `n * 10 ^ p` lies in the interval of the reals that are read as the number. -/
def readsBack (x : Binary64) (p : Int) (n : Nat) : Bool :=
  let m := x.significand
  let q := x.binaryExponent - 2
  let (lower, unit) := onGrid (if x.narrowBelow then 4 * m - 1 else 4 * m - 2) q p
  let upper := (onGrid (4 * m + 2) q p).1
  let place := n * unit
  if m % 2 = 0 then lower ≤ place && place ≤ upper else lower < place && place < upper

/-- The digits of the number on the grid of `10 ^ p`, if there are any that are read as it. -/
def candidate? (x : Binary64) (p : Int) : Option Nat :=
  let (num, den) := onGrid x.significand x.binaryExponent p
  let below := num / den
  match readsBack x p below, readsBack x p (below + 1) with
  | true, true => if 2 * (num % den) < den then some below else some (below + 1)
  | true, false => some below
  | false, true => some (below + 1)
  | false, false => none

/-- The powers of ten that a grid can have, from the largest down. -/
def grids : List Int := (List.range 633).map fun i => 308 - Int.ofNat i

/-- The fewest digits that are read as the number, with the power of ten that scales them. -/
def fewest (x : Binary64) : Nat × Int :=
  (grids.findSome? fun p => (candidate? x p).map fun n => (n, p)).getD (0, 0)

/-- A finite number without its sign, by the fewest digits. -/
def shortestFinite (x : Binary64) : String :=
  if x.magnitude = 0 then "0"
  else
    let (n, p) := fewest x
    positional (n * powerOfTen p) (-p).toNat

/-- A number by the fewest digits that are read as it, never with an exponent. -/
def shortest (x : Binary64) : String := render shortestFinite x

end DocSearch.Decimal
