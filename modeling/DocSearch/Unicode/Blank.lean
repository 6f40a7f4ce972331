import DocSearch.Unicode.CodeRange

/-!
# Blank characters

The property `White_Space`: twenty-five characters, from the tab to the ideographic space.
-/

namespace DocSearch.Unicode

/-- The code points with the property `White_Space`. -/
def blankRows : List String := [
  "0009-000D 0020 0085 00A0 1680 2000-200A 2028-2029 202F 205F 3000"]

/-- The ranges of `blankRows`. -/
def blankRanges : List CodeRange := CodeRange.table blankRows

/-- The character is white space. -/
def isBlank (c : Char) : Bool := CodeRange.anyContains blankRanges c.toNat

end DocSearch.Unicode
