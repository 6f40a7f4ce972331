import DocSearch.Index.Document
import DocSearch.Json.Record
import DocSearch.Storage.FileTree
import DocSearch.Text.Analyzer
import DocSearch.Unicode.Blank

/-!
# Ingesting documents

Documents are read from JSON files: one file, or all files below a directory whose extension says
that they hold JSON. A file of lines has a document in each line that is not blank; any other file
has one document or a list of them. The files of a directory are taken in the order of their paths,
name by name, so that the order in which a directory is listed does not matter.
-/

namespace DocSearch.Ingest

/-! ## Documents -/

/-- The fields of a document in JSON. -/
def fields : List String := ["id", "title", "body"]

/-- The document that the values of its fields stand for. -/
def ofValues? (a : Analyzer) : List Json.Node → Option Document
  | [id, title, body] =>
    match id.word?, title.text?, body.text? with
    | some id, some title, some body => some { id, title, tokens := a.analyze body }
    | _, _, _ => none
  | _ => none

/-- The document that a record stands for. -/
def ofNode? (a : Analyzer) (v : Json.Node) : Option Document :=
  (v.record? fields).bind (ofValues? a)

/-- Turns an absent result into the error of JSON texts of a wrong form. -/
def orJson {α : Type} : Option α → Except Error α
  | some x => .ok x
  | none => .error .json

/-! ## Files -/

/-- The bytes between line feeds. -/
def lines (b : Bytes) : List Bytes := b.splitOn 10

/-- Reads a line, which has no document if it is blank. -/
def ofLine (a : Analyzer) (line : Bytes) : Except Error (Option Document) :=
  match Bytes.text? line with
  | none => .error (.io .notText)
  | some s =>
    if s.toList.all Unicode.isBlank then .ok none
    else (orJson ((Json.Node.ofText? s.toList).bind (ofNode? a))).map some

/-- Reads a file of lines. -/
def ofLines (a : Analyzer) (content : Bytes) : Except Error (List Document) :=
  ((lines content).mapM (ofLine a)).map (List.filterMap id)

/-- The documents that a settled value stands for: those of its items, or itself. A value that is
neither a list nor an object has none. -/
def ofValue? (a : Analyzer) : Json.Node → Option (List Document)
  | .array items => items.mapM fun v => ofNode? a v.settleMembers
  | .object members => (ofNode? a (Json.Node.object members).settleMembers).map ([·])
  | _ => some []

/-- Reads a file that holds one value. -/
def ofWhole (a : Analyzer) (content : Bytes) : Except Error (List Document) :=
  orJson (((Bytes.text? content).bind fun s => Json.Node.settled? s.toList).bind (ofValue? a))

/-- The extension of a file name: what follows the last point, unless nothing stands in front of
it. -/
def extension? (name : String) : Option String :=
  if name = ".." then none
  else
    match name.toList.splitOn '.' with
    | [_] => none
    | [[], _] => none
    | parts => parts.getLast?.map String.ofList

/-- Reads a file as its extension says. -/
def ofFile (a : Analyzer) (name : String) (content : Bytes) : Except Error (List Document) :=
  if extension? name = some "jsonl" then ofLines a content else ofWhole a content

/-! ## Inputs -/

/-- A file below a directory is read if it has one of the two extensions. -/
def isRead (names : List String) : Bool :=
  match names.getLast?.bind extension? with
  | some e => e = "json" || e = "jsonl"
  | none => false

/-- The files of a listing that are read, in the order of their names. -/
def selected (listing : List (List String × Bytes)) : List (List String × Bytes) :=
  (listing.filter fun (names, _) => isRead names).mergeSort fun a b => (compare a.1 b.1).isLE

/-- Reads a file that is found under a list of names. -/
def ofEntry (a : Analyzer) (f : List String × Bytes) : Except Error (List Document) :=
  ofFile a (f.1.getLast?.getD "") f.2

/-- Reads the files of a listing of a directory. -/
def ofListing (a : Analyzer) (listing : List (List String × Bytes)) :
    Except Error (List Document) :=
  ((selected listing).mapM (ofEntry a)).map List.flatten

/-- The documents of an input path. There are none if nothing is there, and without a path there is
nothing to read from. -/
def documents (t : FileTree) (a : Analyzer) (input : Option Path) : Except Error (List Document) :=
  match input with
  | none => .error (.io .noInput)
  | some p =>
    match t.locate p with
    | .error _ => .ok []
    | .ok names =>
      match t.entry? names with
      | none => .ok []
      | some (.file content) => ofEntry a (names, content)
      | some .directory => ofListing a (t.filesBelow names)

end DocSearch.Ingest
