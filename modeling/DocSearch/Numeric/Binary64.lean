import DocSearch.Numeric.Scalar

/-!
# Floating point numbers by their bits

A number of the 64-bit binary format is kept as its bits, so that everything that is not a number
stays apart from its likes when it is stored and read again. Arithmetic on numbers is that of the
machine; what is not a number passes through an operation, and an operation on numbers without a
result, such as the difference of two infinities, gives `undefined`, whose sign bit is set.

Comparisons are read off the bits: without the sign bit the bits of two numbers are ordered like
their absolute values, and everything above infinity is not a number.
-/

namespace DocSearch

/-- A number in the 64-bit binary floating point format. -/
structure Binary64 where
  /-- Sign, exponent and fraction, from the highest bit down. -/
  bits : UInt64
deriving DecidableEq, Repr, Inhabited

namespace Binary64

/-- The number as the machine computes with it. -/
def toFloat (x : Binary64) : Float := Float.ofBits x.bits

/-- The bits of a number of the machine. -/
def ofFloat (x : Float) : Binary64 := ⟨x.toBits⟩

/-- The value of the sign bit. -/
def signUnit : Nat := 0x8000000000000000

/-- The sign bit is set. -/
def isNegative (x : Binary64) : Bool := signUnit ≤ x.bits.toNat

/-- The bits without the sign. -/
def magnitude (x : Binary64) : Nat := x.bits.toNat % signUnit

/-- The magnitude of infinity, above which nothing is a number. -/
def infinityMagnitude : Nat := 0x7ff0000000000000

/-- The bits are not those of a number. -/
def isNaN (x : Binary64) : Bool := infinityMagnitude < x.magnitude

/-- A key that orders all numbers like their values; both zeros have the key zero. -/
def key (x : Binary64) : Int := if x.isNegative then -x.magnitude else x.magnitude

/-- A key of its own for all bits: a negative zero comes before zero, and what is not a number
comes outermost on the side of its sign. -/
def totalKey (x : Binary64) : Int := if x.isNegative then -x.magnitude - 1 else x.magnitude

/-- The first number is less than the second. -/
def lt (x y : Binary64) : Bool := !x.isNaN && !y.isNaN && decide (x.key < y.key)

/-- The linear order of all bits. -/
def totalCompare (x y : Binary64) : Ordering := compare x.totalKey y.totalKey

/-- The larger of two numbers. -/
def max (x y : Binary64) : Binary64 :=
  if x.isNaN then y else if y.isNaN then x else if x.lt y then y else x

/-- The smaller of two numbers. -/
def min (x y : Binary64) : Binary64 :=
  if x.isNaN then y else if y.isNaN then x else if y.lt x then y else x

/-- The number nearest to a natural number. -/
def ofNat (n : Nat) : Binary64 := ofFloat (Float.ofNat n)

/-- What an operation gives that has no result. -/
def undefined : Binary64 := ⟨0xfff8000000000000⟩

/-- The result of an operation as the machine gives it. -/
def ofResult (x : Float) : Binary64 := if (ofFloat x).isNaN then undefined else ofFloat x

/-- What is not a number, marked as having passed through an operation. -/
def passed (x : Binary64) : Binary64 := ⟨x.bits ||| 0x0008000000000000⟩

/-- An operation on one number. -/
def map (f : Float → Float) (x : Binary64) : Binary64 :=
  if x.isNaN then x.passed else ofResult (f x.toFloat)

/-- An operation on two numbers. If neither is a number the first one passes through. -/
def map₂ (f : Float → Float → Float) (x y : Binary64) : Binary64 :=
  if x.isNaN then x.passed else if y.isNaN then y.passed else ofResult (f x.toFloat y.toFloat)

/-- The bits of what is not a number and has no sign and no payload. -/
def nan : Binary64 := ⟨0x7ff8000000000000⟩

/-- Positive infinity. -/
def infinity : Binary64 := ⟨0x7ff0000000000000⟩

/-- The number with its sign turned. -/
def negate (x : Binary64) : Binary64 := ⟨x.bits ^^^ 0x8000000000000000⟩

instance : Scalar Binary64 where
  add := map₂ (· + ·)
  sub := map₂ (· - ·)
  mul := map₂ (· * ·)
  div := map₂ (· / ·)
  ofNat := ofNat
  negZero := ⟨0x8000000000000000⟩
  sqrt := map Float.sqrt
  log2 := map Float.log2
  max := max
  min := min
  isZero x := x.magnitude = 0
  lt := lt
  totalCompare := totalCompare

end Binary64

end DocSearch
