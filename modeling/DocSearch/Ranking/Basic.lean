import DocSearch.Index.Corpus

/-!
# Rankings

A ranking lists documents with their scores, the best first. Documents of equal score are ordered
by id, so that no two different documents are interchangeable.
-/

namespace DocSearch

/-- Documents by id with their scores, the best first. -/
abbrev Ranking (α : Type) := List (DocId × α)

namespace Ranking

variable {α : Type} [Scalar α]

/-- The order of a ranking: by descending score, then by ascending id. -/
def compareEntries (a b : DocId × α) : Ordering :=
  (Scalar.totalCompare b.2 a.2).then (compare a.1 b.1)

/-- Puts scored documents in order. -/
def ofList (entries : List (DocId × α)) : Ranking α :=
  entries.mergeSort fun a b => (compareEntries a b).isLE

omit [Scalar α] in
/-- The documents of a ranking; ids that are not in the corpus are passed over. -/
def documents (r : Ranking α) (c : Corpus α) : List Document :=
  r.filterMap fun (id, _) => c.document? id

end Ranking

end DocSearch
