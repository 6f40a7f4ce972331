import DocSearch.Index.DocumentStore
import DocSearch.Index.Snapshot
import DocSearch.Numeric.Scalar

/-!
# Corpus

A corpus is built once from a list of documents, or restored from a snapshot, and holds the
statistics that all ranking models share: how often a term occurs in a document relative to the
most frequent one, and how rare it is in the corpus.
-/

namespace DocSearch

/-- An indexed list of documents. -/
structure Corpus (α : Type) where
  /-- The terms and their document frequencies. -/
  index : TermIndex
  /-- The documents with their vectors. -/
  documents : DocumentStore
  /-- The largest inverse document frequency of a term, and at least zero. -/
  maxIdf : α

namespace Corpus

variable {α : Type} [Scalar α]

/-- The inverse document frequency of a term that `df` of `n` documents contain, zero if none
does. -/
def idfOf (n : Nat) (df : UInt32) : α :=
  if df = 0 then Scalar.zero
  else Scalar.log2 (Scalar.ofNat n / Scalar.ofNat df.toNat)

/-- The corpus of an index and its documents. -/
def assemble (index : TermIndex) (documents : DocumentStore) : Corpus α where
  index := index
  documents := documents
  maxIdf := (List.range index.size).foldl
    (fun m t => Scalar.max m (idfOf documents.size (index.frequency t.toUInt32))) Scalar.zero

/-- Indexes documents, which may not share an id. -/
def build (documents : List Document) : Except Error (Corpus α) :=
  let (index, vectors) := TermIndex.addDocuments {} documents
  (DocumentStore.ofLists documents vectors).map (assemble index)

/-- Restores a corpus; its documents may not share an id, and nothing else is checked. -/
def ofSnapshot (s : Snapshot) : Except Error (Corpus α) :=
  (DocumentStore.ofLists s.documents s.vectors).map (assemble s.index)

omit [Scalar α] in
/-- What has to be kept of a corpus to restore it. -/
def snapshot (c : Corpus α) : Snapshot where
  index := c.index
  documents := c.documents.documents.toList
  vectors := c.documents.vectors.toList

omit [Scalar α] in
/-- The number of documents. -/
def size (c : Corpus α) : Nat := c.documents.size

omit [Scalar α] in
/-- The document with an id. -/
def document? (c : Corpus α) (id : DocId) : Option Document := c.documents.get? id

omit [Scalar α] in
/-- How often a token occurs in a document, zero if either is unknown. -/
def tokenFrequency (c : Corpus α) (token : String) (id : DocId) : UInt32 :=
  match c.index.termId? token with
  | some t => c.documents.frequency t id
  | none => 0

/-- How often a term occurs in a document relative to the document's most frequent term; zero in an
empty document. -/
def tf (c : Corpus α) (t : TermId) (id : DocId) : α :=
  let highest := c.documents.maxCount id
  if highest = 0 then Scalar.zero
  else Scalar.ofNat (c.documents.frequency t id).toNat / Scalar.ofNat highest.toNat

/-- The inverse document frequency of a term. -/
def idf (c : Corpus α) (t : TermId) : α := idfOf c.size (c.index.frequency t)

/-- The inverse document frequency of a term relative to the largest one, zero if that is zero. -/
def normalizedIdf (c : Corpus α) (t : TermId) : α :=
  if Scalar.isZero c.maxIdf then Scalar.zero else c.idf t / c.maxIdf

end Corpus

end DocSearch
