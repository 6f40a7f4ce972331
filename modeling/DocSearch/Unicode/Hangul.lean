/-!
# Hangul syllables

The 11172 modern Hangul syllables are laid out so that a syllable and its parts determine each
other by arithmetic: a leading consonant, a vowel and an optional trailing consonant, with 21
vowels for each leading and 28 trailing forms (the absent one included) for each vowel.
-/

namespace DocSearch.Unicode.Hangul

/-- The first syllable. -/
def syllableBase : Nat := 0xAC00

/-- The first leading consonant. -/
def leadingBase : Nat := 0x1100

/-- The first vowel. -/
def vowelBase : Nat := 0x1161

/-- One less than the first trailing consonant; the difference 0 stands for an absent one. -/
def trailingBase : Nat := 0x11A7

/-- The number of syllables. -/
def syllableCount : Nat := 11172

/-- The parts of a syllable: two, or three if it has a trailing consonant. -/
def decompose? (c : Char) : Option (List Char) :=
  let n := c.toNat
  if syllableBase ≤ n ∧ n < syllableBase + syllableCount then
    let i := n - syllableBase
    let l := Char.ofNat (leadingBase + i / 588)
    let v := Char.ofNat (vowelBase + i % 588 / 28)
    if i % 28 = 0 then some [l, v] else some [l, v, Char.ofNat (trailingBase + i % 28)]
  else none

/-- The syllable of a leading consonant and a vowel, or of an open syllable and a trailing
consonant. -/
def compose? (a b : Char) : Option Char :=
  let m := a.toNat
  let n := b.toNat
  if leadingBase ≤ m ∧ m < leadingBase + 19 ∧ vowelBase ≤ n ∧ n < vowelBase + 21 then
    some (Char.ofNat (syllableBase + (m - leadingBase) * 588 + (n - vowelBase) * 28))
  else if syllableBase ≤ m ∧ m < syllableBase + syllableCount ∧ (m - syllableBase) % 28 = 0 ∧
      trailingBase < n ∧ n < trailingBase + 28 then
    some (Char.ofNat (m + (n - trailingBase)))
  else none

end DocSearch.Unicode.Hangul
