import DocSearch.Index.Store
import DocSearch.Storage.FileTree
import DocSearch.Storage.IndexHeader
import DocSearch.Storage.Layout

/-!
# Index files

An index is kept in a directory of its own, in three files of bytes and a header. The header is
written last and read first: a directory without one holds no index, and neither does one with the
header of another format.

Saving is a list of steps, each of which changes the file tree, so that one can speak of a save that
comes to a halt.
-/

namespace DocSearch

/-- A step of saving. -/
inductive SaveStep where
  /-- Makes a directory and those above it. -/
  | createDirectories (path : Path)
  /-- Makes a file or empties it. -/
  | create (path : Path)
  /-- Fills an empty file. -/
  | fill (path : Path) (content : Bytes)
deriving DecidableEq, Repr

namespace SaveStep

/-- The file tree after a step. -/
def perform (t : FileTree) : SaveStep → Except FileError FileTree
  | .createDirectories p => t.createDirectories p
  | .create p => t.write p []
  | .fill p content => t.write p content

/-- The file tree after all steps, or after those in front of the first that fails. -/
def performAll (t : FileTree) : List SaveStep → Except FileError Unit × FileTree
  | [] => (.ok (), t)
  | step :: steps =>
    match step.perform t with
    | .ok u => performAll u steps
    | .error e => (.error e, t)

end SaveStep

/-- An index in a directory of a file tree. -/
structure IndexFiles where
  /-- The file tree. -/
  tree : FileTree
  /-- The directory of the index. -/
  root : Path
  /-- The time that goes into the header of what is saved. -/
  now : String
deriving DecidableEq

namespace IndexFiles

/-- The file of the dictionary. -/
def dictionaryFile (root : Path) : Path := root.join "dictionary.bin"

/-- The file of the documents. -/
def documentsFile (root : Path) : Path := root.join "docs.bin"

/-- The file of the term vectors. -/
def vectorsFile (root : Path) : Path := root.join "vectors.bin"

/-- The file of the header. -/
def headerFile (root : Path) : Path := root.join "meta.json"

/-- The header of a snapshot. -/
def headerOf (s : Snapshot) (now : String) : IndexHeader where
  documents := s.documents.length.toUInt32
  terms := s.index.size.toUInt32
  createdAt := now
  version := IndexHeader.currentVersion

/-- The steps of saving a snapshot with the entries of its dictionary in a given arrangement. -/
def stepsArranged (entries : List (String × TermId)) (root : Path) (now : String) (s : Snapshot) :
    List SaveStep :=
  let put (p : Path) (content : Bytes) : List SaveStep := [.create p, .fill p content]
  .createDirectories root ::
    put (dictionaryFile root) (Layout.indexArranged entries s.index) ++
    put (documentsFile root) (Layout.list Layout.document s.documents) ++
    put (vectorsFile root) (Layout.list Layout.vector s.vectors) ++
    put (headerFile root) (Bytes.ofText (headerOf s now).render)

/-- Saves a snapshot with the entries of its dictionary in a given arrangement. -/
def saveArranged (f : IndexFiles) (entries : List (String × TermId)) (s : Snapshot) :
    Except Error Unit × IndexFiles :=
  let (outcome, tree) := SaveStep.performAll f.tree (stepsArranged entries f.root f.now s)
  (outcome.mapError .io, { f with tree })

/-- Saves a snapshot, the dictionary in ascending order. -/
def save (f : IndexFiles) (s : Snapshot) : Except Error Unit × IndexFiles :=
  f.saveArranged s.index.dictionary.toList s

/-- Reads the header. -/
def loadHeader (f : IndexFiles) : Except Error IndexHeader :=
  ((f.tree.read (headerFile f.root)).mapError Error.io).bind IndexHeader.ofBytes

/-- Reads a value from a file. -/
def loadFile {α : Type} (f : IndexFiles) (read : Layout.Reader α) (p : Path) : Except Error α :=
  ((f.tree.read p).mapError Error.io).bind (Layout.decode read)

/-- Reads the snapshot behind a header of the current format. -/
def loadContent (f : IndexFiles) : Except Error Snapshot := do
  let index ← f.loadFile Layout.readIndex (dictionaryFile f.root)
  let documents ← f.loadFile (Layout.readList Layout.readDocument) (documentsFile f.root)
  let vectors ← f.loadFile (Layout.readList Layout.readVector) (vectorsFile f.root)
  return { index, documents, vectors }

/-- Reads the snapshot, or nothing if there is no header or one of another format. -/
def load (f : IndexFiles) : Except Error (Option Snapshot) :=
  match f.loadHeader with
  | .error (.io .notFound) => .ok none
  | .error e => .error e
  | .ok h =>
    if h.version = IndexHeader.currentVersion then f.loadContent.map some else .ok none

instance : IndexStore IndexFiles where
  load := load
  save := save

end IndexFiles

end DocSearch
