import DocSearch.Index.TermVector

/-!
# Term index

The distinct tokens of a corpus, numbered in order of first occurrence, and for each the number of
documents that contain it.
-/

namespace DocSearch

/-- The dictionary of a corpus with its document frequencies. -/
structure TermIndex where
  /-- The id of each token. -/
  dictionary : Std.ExtTreeMap String TermId := ∅
  /-- The token of each id. -/
  terms : Array String := #[]
  /-- The number of documents that contain the term, by id. -/
  frequencies : Array UInt32 := #[]
deriving DecidableEq

namespace TermIndex

/-- The number of terms. -/
def size (x : TermIndex) : Nat := x.terms.size

/-- The id of a token. -/
def termId? (x : TermIndex) (token : String) : Option TermId := x.dictionary[token]?

/-- The token of an id. -/
def token? (x : TermIndex) (t : TermId) : Option String := x.terms[t.toNat]?

/-- The number of documents that contain the term, zero for an unknown id. -/
def frequency (x : TermIndex) (t : TermId) : UInt32 := x.frequencies[t.toNat]?.getD 0

/-- The index with a new token, which gets the next id. -/
def push (x : TermIndex) (token : String) : TermIndex where
  dictionary := x.dictionary.insert token x.terms.size.toUInt32
  terms := x.terms.push token
  frequencies := x.frequencies.push 0

/-- The index with one more document for the term. -/
def countDocument (x : TermIndex) (t : TermId) : TermIndex :=
  { x with frequencies := x.frequencies.modify t.toNat (· + 1) }

/-- Counts the tokens of a document on top of a vector; tokens that are new get ids. -/
def countTokens (x : TermIndex) (v : TermVector) : List String → TermIndex × TermVector
  | [] => (x, v)
  | token :: tokens =>
    match x.termId? token with
    | some t => countTokens x (v.bump t) tokens
    | none => countTokens (x.push token) (v.bump x.terms.size.toUInt32) tokens

/-- The index with a further document, and the vector of the document. -/
def addDocument (x : TermIndex) (tokens : List String) : TermIndex × TermVector :=
  let (y, v) := x.countTokens ∅ tokens
  (v.keys.foldl countDocument y, v)

/-- The indexed documents with their vectors in order, starting from an index. -/
def addDocuments (x : TermIndex) : List Document → TermIndex × List TermVector
  | [] => (x, [])
  | d :: ds =>
    let (y, v) := x.addDocument d.tokens
    let (z, vs) := y.addDocuments ds
    (z, v :: vs)

/-- How often each known term occurs among the tokens. -/
def bagOfWords (x : TermIndex) (tokens : List String) : TermVector :=
  (tokens.filterMap x.termId?).foldl TermVector.bump ∅

end TermIndex

end DocSearch
