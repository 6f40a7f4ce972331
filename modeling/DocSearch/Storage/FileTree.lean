import Std.Data.ExtTreeMap
import DocSearch.Error
import DocSearch.Storage.Bytes

/-!
# File trees

Directories and files as a value: every entry stands under the list of names that leads to it from
the root. Operations fail for the same reasons as those of an operating system: a path may lead to
nothing, through a file, or to a directory where a file is needed.
-/

namespace DocSearch

/-- The way to an entry. -/
structure Path where
  /-- The way begins at the root and not at the working directory. -/
  absolute : Bool
  /-- The names to follow, among them `.` for staying and `..` for going up. -/
  parts : List String
  /-- A slash follows the last name, so that only a directory can be meant. -/
  trailingSlash : Bool := false
deriving DecidableEq, Repr

namespace Path

/-- The way below a path that a name leads to. -/
def join (p : Path) (name : String) : Path :=
  { p with parts := p.parts ++ [name], trailingSlash := false }

/-- The path without the names that stay where they are. -/
def plain (p : Path) : Path :=
  { p with parts := p.parts.filter (· ≠ "."), trailingSlash := false }

/-- The pieces of a text between slashes. -/
def pieces (s : List Char) : List (List Char) :=
  s.splitOn '/'

/-- The path that a text writes. Slashes separate names, and several of them count as one. -/
def ofText (s : String) : Path :=
  let names := (pieces s.toList).map String.ofList
  { absolute := names.head? = some "" && 1 < names.length
    parts := names.filter (· ≠ "")
    trailingSlash := names.getLast? = some "" && names.any (· ≠ "") }

end Path

/-- What can stand under a name. -/
inductive Entry where
  /-- A file with its content. -/
  | file (content : Bytes)
  /-- A directory. -/
  | directory
deriving DecidableEq, Repr

/-- Files and directories. The root is always a directory. -/
structure FileTree where
  /-- The entries below the root by the names that lead to them. -/
  entries : Std.ExtTreeMap (List String) Entry := ∅
  /-- Where paths begin that are not absolute. -/
  workingDirectory : List String := []
deriving DecidableEq

namespace FileTree

/-! ## Finding entries -/

/-- The entry under a list of names. -/
def entry? (t : FileTree) (names : List String) : Option Entry :=
  if names = [] then some .directory else t.entries[names]?

/-- Where one part of a path leads to from a directory. -/
def advance (names : List String) (part : String) : List String :=
  if part = "." then names
  else if part = ".." then names.dropLast
  else names ++ [part]

/-- Follows the parts of a path. All but the last place have to be directories. -/
def follow (t : FileTree) (names : List String) : List String → Except FileError (List String)
  | [] => .ok names
  | part :: parts =>
    match t.entry? names with
    | none => .error .notFound
    | some (.file _) => .error .notADirectory
    | some .directory => follow t (advance names part) parts

/-- The place that a path leads to; there may be nothing yet. A slash at the end stays there, which
only a directory allows. -/
def locate (t : FileTree) (p : Path) : Except FileError (List String) :=
  t.follow (if p.absolute then [] else t.workingDirectory)
    (p.parts ++ if p.trailingSlash then ["."] else [])

/-- The entry that a path leads to, if there is one. -/
def lookup (t : FileTree) (p : Path) : Option Entry :=
  match t.locate p with
  | .ok names => t.entry? names
  | .error _ => none

/-- The path leads to a directory. -/
def isDirectory (t : FileTree) (p : Path) : Bool := t.lookup p = some .directory

/-- The content of a file. -/
def read (t : FileTree) (p : Path) : Except FileError Bytes :=
  match t.locate p with
  | .error e => .error e
  | .ok names =>
    match t.entry? names with
    | none => .error .notFound
    | some .directory => .error .isADirectory
    | some (.file content) => .ok content

/-- The names of the entries of a directory in ascending order. -/
def list (t : FileTree) (p : Path) : Except FileError (List String) :=
  match t.locate p with
  | .error e => .error e
  | .ok names =>
    match t.entry? names with
    | none => .error .notFound
    | some (.file _) => .error .notADirectory
    | some .directory =>
      .ok (t.entries.keys.filterMap fun key => if key.dropLast = names then key.getLast? else none)

/-- The files below a directory at any depth, each under the names that lead to it from there. -/
def filesBelow (t : FileTree) (names : List String) : List (List String × Bytes) :=
  t.entries.toList.filterMap fun (key, entry) =>
    match entry with
    | .file content =>
      if names.isPrefixOf key then some (key.drop names.length, content) else none
    | .directory => none

/-! ## Changing entries -/

/-- Gives a file a content; it is made if there is none. -/
def write (t : FileTree) (p : Path) (content : Bytes) : Except FileError FileTree :=
  match t.locate p with
  | .error e => .error e
  | .ok names =>
    match t.entry? names with
    | some .directory => .error .isADirectory
    | _ => .ok { t with entries := t.entries.insert names (.file content) }

/-- Removes a file. -/
def remove (t : FileTree) (p : Path) : Except FileError FileTree :=
  match t.locate p with
  | .error e => .error e
  | .ok names =>
    match t.entry? names with
    | none => .error .notFound
    | some .directory => .error .isADirectory
    | some (.file _) => .ok { t with entries := t.entries.erase names }

/-- Makes a directory where there is nothing. A slash may follow its name, but its name is not `.`,
since that stays in a directory that is there already. -/
def createDirectory (t : FileTree) (p : Path) : Except FileError FileTree :=
  match t.locate { p with trailingSlash := false } with
  | .error e => .error e
  | .ok names =>
    match t.entry? names with
    | some _ => .error .alreadyExists
    | none => .ok { t with entries := t.entries.insert names .directory }

/-- Accepts a failure to make a directory if there is one. -/
def orPresent (t : FileTree) (p : Path) (result : Except FileError FileTree) :
    Except FileError FileTree :=
  match result with
  | .ok u => .ok u
  | .error e => if t.isDirectory p then .ok t else .error e

/-- Makes a directory; if the way to it is missing, after the directories above it are made, with
the outcome `above`. -/
def createBelow (t : FileTree) (p : Path) (above : Except FileError FileTree) :
    Except FileError FileTree :=
  match t.createDirectory p with
  | .error .notFound =>
    match above with
    | .ok u => u.orPresent p (u.createDirectory p)
    | .error e => .error e
  | result => t.orPresent p result

/-- Makes a directory, whose parts are given from the last one up, and those above it as far as
they are missing. -/
def createUpwards (t : FileTree) (absolute : Bool) : List String → Except FileError FileTree
  | [] => .ok t
  | name :: above =>
    t.createBelow { absolute, parts := (name :: above).reverse } (t.createUpwards absolute above)

/-- Makes a directory and those above it as far as they are missing. The path is taken as it is
given: one that ends in `.` leads to a directory that cannot be made. -/
def createDirectories (t : FileTree) (p : Path) : Except FileError FileTree :=
  t.createBelow p (t.createUpwards p.absolute p.plain.parts.dropLast.reverse)

end FileTree

end DocSearch
