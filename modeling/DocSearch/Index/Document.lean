/-!
# Documents

A document comes with an id of its own and its text already turned into tokens.
-/

namespace DocSearch

/-- The id of a document, unique within a corpus. -/
abbrev DocId := UInt32

/-- The number of a term in an index. -/
abbrev TermId := UInt32

/-- A document to be searched for. -/
structure Document where
  /-- The id given by the user. -/
  id : DocId
  /-- The title, shown in answers and not searched. -/
  title : String
  /-- The tokens of the text in order of appearance. -/
  tokens : List String
deriving DecidableEq, Repr

end DocSearch
