import Mathlib.Data.List.Perm.Basic
import Mathlib.Order.Lattice
import Mathlib.Tactic.Lemma
import DocSearch.Numeric.Binary64

/-!
# The orders of floating point numbers

Floating point numbers are compared in two ways. Filtering asks whether one is less than another,
which is denied of what is not a number and does not tell the zeros apart; sorting uses the linear
order of all bits. The two fit together: what is less comes before in the linear order
(`totalCompare_eq_lt`), and only equal bits are equal in it (`totalCompare_eq_iff`).

The larger of two numbers depends on their order if they are zeros of different sign, or if one is
not a number. From zero on this makes no difference: the largest of zero and a list of any members
does not depend on the arrangement of the list (`foldl_max_of_perm`).
-/

namespace DocSearch.Binary64

variable {x y z : Binary64}

/-! ## The linear order -/

lemma toNat_bits_of_negative (h : x.isNegative = true) :
    x.bits.toNat = signUnit + x.magnitude := by
  have hle : signUnit ≤ x.bits.toNat := of_decide_eq_true h
  have hlt := x.bits.toNat_lt
  rw [magnitude]
  rw [signUnit] at hle ⊢
  omega

lemma toNat_bits_of_not_negative (h : x.isNegative = false) : x.bits.toNat = x.magnitude := by
  have hlt : ¬ signUnit ≤ x.bits.toNat := of_decide_eq_false h
  exact (Nat.mod_eq_of_lt (Nat.lt_of_not_le hlt)).symm

lemma eq_of_magnitude (hsign : x.isNegative = y.isNegative) (h : x.magnitude = y.magnitude) :
    x = y := by
  have hbits : x.bits.toNat = y.bits.toNat := by
    cases hy : y.isNegative
    · rw [toNat_bits_of_not_negative hy, toNat_bits_of_not_negative (hsign.trans hy), h]
    · rw [toNat_bits_of_negative hy, toNat_bits_of_negative (hsign.trans hy), h]
  cases x
  cases y
  exact congrArg mk (UInt64.toNat_inj.1 hbits)

lemma totalKey_injective (h : x.totalKey = y.totalKey) : x = y := by
  -- the keys of negative numbers are below zero, all others are not
  cases hx : x.isNegative <;> cases hy : y.isNegative <;>
    simp only [totalKey, hx, hy, if_true, Bool.false_eq_true, if_false] at h
  · exact eq_of_magnitude (hx.trans hy.symm) (by omega)
  · omega
  · omega
  · exact eq_of_magnitude (hx.trans hy.symm) (by omega)

/-- Only equal bits are equal in the linear order. -/
lemma totalCompare_eq_iff : Scalar.totalCompare x y = .eq ↔ x = y := by
  show compare x.totalKey y.totalKey = .eq ↔ x = y
  rw [Std.LawfulEqOrd.compare_eq_iff_eq]
  exact ⟨totalKey_injective, congrArg totalKey⟩

lemma lt_eq_true_iff :
    Scalar.lt x y = true ↔ x.isNaN = false ∧ y.isNaN = false ∧ x.key < y.key := by
  show x.lt y = true ↔ _
  simp [lt, and_assoc]

/-- What is less comes before in the linear order. -/
lemma totalCompare_eq_lt (h : Scalar.lt x y = true) : Scalar.totalCompare x y = .lt := by
  obtain ⟨-, -, hkey⟩ := lt_eq_true_iff.1 h
  show compare x.totalKey y.totalKey = .lt
  rw [Std.compare_eq_lt]
  cases hxs : x.isNegative <;> cases hys : y.isNegative <;>
    simp only [key, totalKey, hxs, hys, if_true, Bool.false_eq_true, if_false] at hkey ⊢ <;> omega

/-- What is less than a number that another one does not exceed is less than the other one. -/
lemma lt_of_not_lt_of_lt (hx : x.isNaN = false) (hle : y.lt x = false) (h : Scalar.lt y z = true) :
    Scalar.lt x z = true := by
  obtain ⟨hy, hz, hkey⟩ := lt_eq_true_iff.1 h
  have hxy : x.key ≤ y.key := by simpa [lt, hx, hy] using hle
  exact lt_eq_true_iff.2 ⟨hx, hz, Int.lt_of_le_of_lt hxy hkey⟩

/-- What comes behind something greater in the linear order is greater too, if it is a number. -/
lemma lt_of_lt_of_totalCompare (hz : z.isNaN = false) (hxy : Scalar.lt x y = true)
    (hyz : Scalar.totalCompare y z = .lt) : Scalar.lt x z = true := by
  obtain ⟨hx, hy, hkey⟩ := lt_eq_true_iff.1 hxy
  refine lt_eq_true_iff.2 ⟨hx, hz, Int.lt_of_not_ge fun hzx => ?_⟩
  have hzy : Scalar.lt z y = true := lt_eq_true_iff.2 ⟨hz, hy, Int.lt_of_le_of_lt hzx hkey⟩
  have hback : compare z.totalKey y.totalKey = .lt := totalCompare_eq_lt hzy
  have hforth : compare y.totalKey z.totalKey = .lt := hyz
  exact Std.OrientedCmp.not_lt_of_lt hforth hback

/-! ## The largest of zero and others -/

/-- The number is not negative; negative zero does not count as such. -/
structure IsNonneg (x : Binary64) : Prop where
  isNegative : x.isNegative = false
  isNaN : x.isNaN = false

/-- What a number contributes to the largest of zero and others. -/
def positivePart (x : Binary64) : Nat := if x.isNegative || x.isNaN then 0 else x.magnitude

lemma isNonneg_zero : IsNonneg Scalar.zero := ⟨by decide, by decide⟩

lemma IsNonneg.eq (hx : x.IsNonneg) (hy : y.IsNonneg) (h : x.magnitude = y.magnitude) : x = y :=
  eq_of_magnitude (hx.isNegative.trans hy.isNegative.symm) h

lemma IsNonneg.key (hx : x.IsNonneg) : x.key = x.magnitude := by
  rw [Binary64.key, hx.isNegative, if_neg Bool.false_ne_true]

lemma IsNonneg.positivePart_eq (hx : x.IsNonneg) : x.positivePart = x.magnitude := by
  rw [positivePart, hx.isNegative, hx.isNaN]
  rfl

lemma positivePart_of_not_isNonneg (hx : ¬ x.IsNonneg) : x.positivePart = 0 := by
  rw [positivePart, if_pos]
  by_contra hneither
  simp only [Bool.or_eq_true, not_or, Bool.not_eq_true] at hneither
  exact hx ⟨hneither.1, hneither.2⟩

/-- The larger of two numbers that are not negative has the larger magnitude. -/
lemma IsNonneg.max_of_isNonneg (hx : x.IsNonneg) (hy : y.IsNonneg) :
    (Scalar.max x y).IsNonneg ∧ (Scalar.max x y).magnitude = x.magnitude ⊔ y.magnitude := by
  have hlt : x.lt y = true ↔ x.magnitude < y.magnitude := by
    simp [lt, hx.isNaN, hy.isNaN, hx.key, hy.key]
  show (x.max y).IsNonneg ∧ (x.max y).magnitude = _
  rw [Binary64.max, hx.isNaN, hy.isNaN, if_neg Bool.false_ne_true, if_neg Bool.false_ne_true]
  split
  · next h => exact ⟨hy, (max_eq_right (Nat.le_of_lt (hlt.1 h))).symm⟩
  · next h => exact ⟨hx, (max_eq_left (Nat.le_of_not_lt (mt hlt.2 h))).symm⟩

/-- A negative number, or what is not a number, does not count beside a number that is not
negative. -/
lemma IsNonneg.max_of_not_isNonneg (hx : x.IsNonneg) (hy : ¬ y.IsNonneg) :
    Scalar.max x y = x := by
  show x.max y = x
  rw [Binary64.max, hx.isNaN, if_neg Bool.false_ne_true]
  split
  · rfl
  · next hnan =>
    have hneg : y.isNegative = true := by
      rw [← Bool.not_eq_false]
      exact fun hneg => hy ⟨hneg, Bool.eq_false_of_not_eq_true hnan⟩
    have hkey : y.key ≤ 0 := by
      rw [Binary64.key, if_pos hneg]
      omega
    refine if_neg fun hlt => ?_
    obtain ⟨-, -, hlt⟩ := lt_eq_true_iff.1 hlt
    rw [hx.key] at hlt
    omega

lemma IsNonneg.max (hx : x.IsNonneg) : (Scalar.max x y).IsNonneg ∧
    (Scalar.max x y).magnitude = x.magnitude ⊔ y.positivePart := by
  by_cases hy : y.IsNonneg
  · rw [hy.positivePart_eq]
    exact hx.max_of_isNonneg hy
  · rw [hx.max_of_not_isNonneg hy, positivePart_of_not_isNonneg hy]
    exact ⟨hx, (Nat.max_zero _).symm⟩

lemma IsNonneg.foldl_max (xs : List Binary64) : ∀ {x : Binary64}, x.IsNonneg →
    (xs.foldl Scalar.max x).IsNonneg ∧
      (xs.foldl Scalar.max x).magnitude = (xs.map positivePart).foldl (· ⊔ ·) x.magnitude := by
  induction xs with
  | nil => exact fun hx => ⟨hx, rfl⟩
  | cons y xs ih =>
    intro x hx
    obtain ⟨hmax, hmagnitude⟩ := hx.max (y := y)
    rw [List.foldl_cons, List.map_cons, List.foldl_cons, ← hmagnitude]
    exact ih hmax

/-- The largest of zero and others does not depend on their arrangement. -/
theorem foldl_max_of_perm {xs ys : List Binary64} (h : xs.Perm ys) :
    xs.foldl Scalar.max Scalar.zero = ys.foldl Scalar.max Scalar.zero := by
  obtain ⟨hxs, hxs'⟩ := isNonneg_zero.foldl_max xs
  obtain ⟨hys, hys'⟩ := isNonneg_zero.foldl_max ys
  refine hxs.eq hys ?_
  rw [hxs', hys']
  exact (h.map positivePart).foldl_eq _

end DocSearch.Binary64
