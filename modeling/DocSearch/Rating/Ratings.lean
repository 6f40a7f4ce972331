import Std.Data.ExtTreeMap
import DocSearch.Index.Document
import DocSearch.Numeric.Scalar

/-!
# Ratings

How relevant documents were found to be. What a rating says about a document is split into the mean
of all ratings and the deviation of this one from it; a document without a rating deviates as if it
were rated zero.
-/

namespace DocSearch

/-- The ratings of documents by id. -/
abbrev Ratings (α : Type) := Std.ExtTreeMap DocId α

namespace Ratings

variable {α : Type}

/-- The ratings with further ones, of which the last for a document counts. -/
def addAll (r : Ratings α) (pairs : List (DocId × α)) : Ratings α :=
  pairs.foldl (fun r (id, x) => r.insert id x) r

variable [Scalar α]

/-- The mean of all ratings, or nothing if there are none. -/
def mean? (r : Ratings α) : Option α :=
  if r.isEmpty then none else some (Scalar.sum r.values / Scalar.ofNat r.size)

/-- How far the rating of a document lies above the mean. -/
def deviation (r : Ratings α) (mean : α) (id : DocId) : α :=
  r.getD id Scalar.zero - mean

/-- The mean together with the deviation of a document. -/
def baseline (r : Ratings α) (mean : α) (id : DocId) : α :=
  mean + r.deviation mean id

end Ratings

end DocSearch
