import DocSearch.Index.TermIndex

/-!
# Snapshots

All that has to be kept of an index to restore it without reading the documents again.
-/

namespace DocSearch

/-- The content of a built index. -/
structure Snapshot where
  /-- The dictionary and the document frequencies. -/
  index : TermIndex := {}
  /-- The documents in order. -/
  documents : List Document := []
  /-- Their term vectors. -/
  vectors : List TermVector := []
deriving DecidableEq

end DocSearch
