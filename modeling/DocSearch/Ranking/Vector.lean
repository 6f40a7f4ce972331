import DocSearch.Ranking.Basic

/-!
# Vector model

The query is a bag of words. Query and documents are vectors of weights, one for each term of the
query, and a document scores the cosine of the angle between the two.
-/

namespace DocSearch.Vector

/-- The settings of the vector model. -/
structure Params (α : Type) where
  /-- The share of a query weight that does not depend on how often the term is in the query. -/
  smoothing : α
  /-- Documents have to score above this. -/
  threshold : α
deriving DecidableEq, Repr

variable {α : Type} [Scalar α]

/-- The settings used when none are given: 0.4 and 0.3. -/
def Params.default : Params α where
  smoothing := Scalar.ofNat 4 / Scalar.ofNat 10
  threshold := Scalar.ofNat 3 / Scalar.ofNat 10

/-- The weights of the terms of a query, in the order of their ids. A query without counts has
none. -/
def queryWeights (c : Corpus α) (p : Params α) (query : TermVector) : List (TermId × α) :=
  let highest := query.maxCount
  if highest = 0 then []
  else
    query.toList.map fun (t, n) =>
      let tf : α := Scalar.ofNat n.toNat / Scalar.ofNat highest.toNat
      (t, (p.smoothing + (Scalar.one - p.smoothing) * tf) * c.idf t)

/-- The weight of a term in a document. -/
def documentWeight (c : Corpus α) (id : DocId) (t : TermId) : α := c.tf t id * c.idf t

/-- The inner product of two vectors of weights, one above the other. -/
def inner (pairs : List (α × α)) : α :=
  pairs.foldl (fun s (x, y) => s + x * y) Scalar.zero

/-- The cosine of the angle between a document and query weights. Zero if either has no length,
and never above one. -/
def similarity (c : Corpus α) (id : DocId) (weights : List (TermId × α)) : α :=
  let pairs := weights.map fun (t, w) => (documentWeight c id t, w)
  let dot := inner pairs
  let documentNorm := inner (pairs.map fun (x, _) => (x, x))
  let queryNorm := inner (pairs.map fun (_, y) => (y, y))
  if Scalar.isZero documentNorm || Scalar.isZero queryNorm then Scalar.zero
  else Scalar.min (dot / (Scalar.sqrt documentNorm * Scalar.sqrt queryNorm)) Scalar.one

/-- The ranking for a bag of words: the documents that score above the threshold. -/
def rank (c : Corpus α) (p : Params α) (query : TermVector) : Ranking α :=
  match queryWeights c p query with
  | [] => []
  | weights =>
    Ranking.ofList <|
      (c.documents.ids.map fun id => (id, similarity c id weights)).filter
        fun (_, s) => Scalar.lt p.threshold s

end DocSearch.Vector
