import Std.Data.ExtTreeMap
import DocSearch.Index.Document

/-!
# Term vectors

How often each term occurs in a document or in a query, by term id in ascending order.
-/

namespace DocSearch

/-- A count for each term that occurs. -/
abbrev TermVector := Std.ExtTreeMap TermId UInt32

namespace TermVector

/-- Counts one more occurrence of a term. -/
def bump (v : TermVector) (t : TermId) : TermVector :=
  v.alter t fun c => some (c.getD 0 + 1)

/-- The count of a term, zero if it does not occur. -/
def count (v : TermVector) (t : TermId) : UInt32 := v.getD t 0

/-- The highest count, zero if there is none. -/
def maxCount (v : TermVector) : UInt32 := v.foldl (fun m _ c => max m c) 0

/-- The number of terms that occur in both vectors. The smaller one is looked through, and its terms
are looked up in the other one. -/
def common (v w : TermVector) : Nat :=
  let (small, large) := if v.size ≤ w.size then (v, w) else (w, v)
  (small.keys.filter large.contains).length

/-- The better of a term with its count found so far and the next one: the earlier one unless its
count is lower. -/
def moreFrequent (best : Option (TermId × UInt32)) (t : TermId) (c : UInt32) :
    Option (TermId × UInt32) :=
  match best with
  | some (s, d) => if c ≤ d then some (s, d) else some (t, c)
  | none => some (t, c)

/-- The term with the highest count, the smallest of several, together with its count. -/
def mostFrequent (v : TermVector) : Option (TermId × UInt32) := v.foldl moreFrequent none

end TermVector

end DocSearch
