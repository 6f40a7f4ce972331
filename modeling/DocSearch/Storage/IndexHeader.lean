import DocSearch.Error
import DocSearch.Json.Quoted
import DocSearch.Json.Record
import DocSearch.Storage.Bytes

/-!
# Index headers

A stored index has a header in JSON that says in which format the index is and how large it is.
-/

namespace DocSearch

/-- The header of a stored index. -/
structure IndexHeader where
  /-- The number of documents. -/
  documents : UInt32
  /-- The number of terms. -/
  terms : UInt32
  /-- When the index was saved. -/
  createdAt : String
  /-- The version of the format. -/
  version : UInt32
deriving DecidableEq, Repr

namespace IndexHeader

/-- The version of the format that is written and read here. -/
def currentVersion : UInt32 := 1

/-- The names of the fields in order. -/
def fields : List String := ["num_docs", "num_terms", "created_at", "version"]

/-- The header as text, one field a line. -/
def render (h : IndexHeader) : String :=
  let values := [toString h.documents.toNat, toString h.terms.toNat, Json.quote h.createdAt,
    toString h.version.toNat]
  let lines := (fields.zip values).map fun (name, value) => "  " ++ Json.quote name ++ ": " ++ value
  "\x7b\n" ++ ",\n".intercalate lines ++ "\n\x7d"

/-- The header that the values of its fields stand for. -/
def ofValues? : List Json.Node → Option IndexHeader
  | [documents, terms, createdAt, version] =>
    match documents.word?, terms.word?, createdAt.text?, version.word? with
    | some documents, some terms, some createdAt, some version =>
      some { documents, terms, createdAt, version }
    | _, _, _, _ => none
  | _ => none

/-- The header that a JSON text stands for. -/
def ofText? (s : String) : Option IndexHeader :=
  ((Json.Node.ofText? s.toList).bind (Json.Node.record? fields)).bind ofValues?

/-- Reads a header from the content of its file. -/
def ofBytes (b : Bytes) : Except Error IndexHeader :=
  match Bytes.text? b with
  | none => .error (.io .notText)
  | some s =>
    match ofText? s with
    | none => .error .json
    | some h => .ok h

end IndexHeader

end DocSearch
