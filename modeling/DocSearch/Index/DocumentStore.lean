import DocSearch.Error
import DocSearch.Index.TermIndex

/-!
# Document store

The documents of a corpus with their term vectors, found by id. Documents, vectors and highest
counts stand at the same positions, and a table gives the position of each id. A store is made in
one go and never changed.

That there is a vector for each document is up to whoever makes the store. A look-up behind the end
of the vectors gives nothing here; it would stop the program.
-/

namespace DocSearch

/-- Documents with their term vectors. -/
structure DocumentStore where
  /-- The documents in the order in which they were given. -/
  documents : Array Document := #[]
  /-- Their term vectors. -/
  vectors : Array TermVector := #[]
  /-- The highest count in each vector. -/
  maxCounts : Array UInt32 := #[]
  /-- The position of each id. -/
  positions : Std.ExtTreeMap DocId Nat := ∅
deriving DecidableEq

namespace DocumentStore

/-- Enters the documents of a list into a table of positions, from position `i` on. Fails at the
first document whose id is in the table. -/
def place (table : Std.ExtTreeMap DocId Nat) (i : Nat) :
    List Document → Except Error (Std.ExtTreeMap DocId Nat)
  | [] => .ok table
  | d :: ds =>
    if table.contains d.id then .error (.duplicateDocument d.id)
    else place (table.insert d.id i) (i + 1) ds

/-- The store of documents with their vectors; no two documents may have the same id. -/
def ofLists (documents : List Document) (vectors : List TermVector) : Except Error DocumentStore :=
  (place ∅ 0 documents).map fun table =>
    { documents := documents.toArray
      vectors := vectors.toArray
      maxCounts := (vectors.map TermVector.maxCount).toArray
      positions := table }

/-- The number of documents. -/
def size (s : DocumentStore) : Nat := s.documents.size

/-- The ids in the order of the documents. -/
def ids (s : DocumentStore) : List DocId := s.documents.toList.map Document.id

/-- The store has a document with the id. -/
def contains (s : DocumentStore) (id : DocId) : Bool := s.positions.contains id

/-- The document with an id. -/
def get? (s : DocumentStore) (id : DocId) : Option Document :=
  s.positions[id]?.bind fun i => s.documents[i]?

/-- The term vector of a document. -/
def vector? (s : DocumentStore) (id : DocId) : Option TermVector :=
  s.positions[id]?.bind fun i => s.vectors[i]?

/-- The documents side by side with their vectors. -/
def entries (s : DocumentStore) : List (Document × TermVector) :=
  s.documents.toList.zip s.vectors.toList

/-- How often a term occurs in a document, zero if either is unknown. -/
def frequency (s : DocumentStore) (t : TermId) (id : DocId) : UInt32 :=
  match s.vector? id with
  | some v => v.count t
  | none => 0

/-- The highest count of a term in a document, zero if it is empty or unknown. -/
def maxCount (s : DocumentStore) (id : DocId) : UInt32 :=
  (s.positions[id]?.bind fun i => s.maxCounts[i]?).getD 0

/-- The most frequent token of a document with its count; no text and zero if the document is empty
or unknown. Of several the one with the smallest term id is taken. -/
def maxFrequency (s : DocumentStore) (x : TermIndex) (id : DocId) : String × UInt32 :=
  match (s.vector? id).bind TermVector.mostFrequent with
  | some (t, c) => ((x.token? t).getD "", c)
  | none => ("", 0)

/-- The distinct terms of a document in ascending order. -/
def distinctTerms (s : DocumentStore) (id : DocId) : List TermId :=
  match s.vector? id with
  | some v => v.keys
  | none => []

end DocumentStore

end DocSearch
