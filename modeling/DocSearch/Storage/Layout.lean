import DocSearch.Error
import DocSearch.Index.Snapshot
import DocSearch.Numeric.Binary64
import DocSearch.Rating.Ratings
import DocSearch.Storage.Bytes

/-!
# Byte layout

How stored values are laid out: numbers have a fixed width with the lowest byte first, and texts,
lists and maps begin with their length as a number of eight bytes. A map is written as its keys with
their values.

A reader takes a value from the front of the bytes and returns the rest. What follows a complete
value is not looked at, and of entries with the same key the last one counts.
-/

namespace DocSearch.Layout

/-- Takes a value from the front of bytes; refuses if they are too few or stand for nothing. -/
abbrev Reader (α : Type) := Bytes → Option (α × Bytes)

/-! ## Numbers and texts -/

/-- The lowest `width` bytes of a number, the lowest first. -/
def number : (width : Nat) → Nat → Bytes
  | 0, _ => []
  | width + 1, n => n.toUInt8 :: number width (n / 256)

/-- Reads a number of `width` bytes. -/
def readNumber : (width : Nat) → Reader Nat
  | 0, b => some (0, b)
  | _ + 1, [] => none
  | width + 1, x :: b =>
    match readNumber width b with
    | some (n, rest) => some (x.toNat + 256 * n, rest)
    | none => none

/-- The width of a length. -/
def lengthWidth : Nat := 8

/-- Writes a word of 32 bits. -/
def word (n : UInt32) : Bytes := number 4 n.toNat

/-- Reads a word of 32 bits. -/
def readWord : Reader UInt32 := fun b =>
  (readNumber 4 b).map fun (n, rest) => (n.toUInt32, rest)

/-- Writes a floating point number. -/
def float (x : Binary64) : Bytes := number 8 x.bits.toNat

/-- Reads a floating point number. -/
def readFloat : Reader Binary64 := fun b =>
  (readNumber 8 b).map fun (n, rest) => (⟨n.toUInt64⟩, rest)

/-- Writes bytes behind their number. -/
def bytes (b : Bytes) : Bytes := number lengthWidth b.length ++ b

/-- Reads bytes behind their number. -/
def readBytes : Reader Bytes := fun b =>
  match readNumber lengthWidth b with
  | none => none
  | some (n, rest) => if rest.length < n then none else some (rest.take n, rest.drop n)

/-- Writes a text. -/
def text (s : String) : Bytes := bytes (Bytes.ofText s)

/-- Reads a text, which has to be in UTF-8. -/
def readText : Reader String := fun b =>
  match readBytes b with
  | none => none
  | some (content, rest) => (Bytes.text? content).map fun s => (s, rest)

/-! ## Lists and maps -/

/-- Writes a list. -/
def list {α : Type} (write : α → Bytes) (l : List α) : Bytes :=
  number lengthWidth l.length ++ l.flatMap write

/-- Reads `n` values one after the other. -/
def readMany {α : Type} (read : Reader α) : (n : Nat) → Reader (List α)
  | 0, b => some ([], b)
  | n + 1, b =>
    match read b with
    | none => none
    | some (x, rest) => (readMany read n rest).map fun (l, rest) => (x :: l, rest)

/-- Reads a list. -/
def readList {α : Type} (read : Reader α) : Reader (List α) := fun b =>
  match readNumber lengthWidth b with
  | none => none
  | some (n, rest) => readMany read n rest

/-- Writes a pair. -/
def pair {α β : Type} (writeFst : α → Bytes) (writeSnd : β → Bytes) (p : α × β) : Bytes :=
  writeFst p.1 ++ writeSnd p.2

/-- Reads a pair. -/
def readPair {α β : Type} (readFst : Reader α) (readSnd : Reader β) : Reader (α × β) := fun b =>
  match readFst b with
  | none => none
  | some (x, rest) => (readSnd rest).map fun (y, rest) => ((x, y), rest)

/-- Reads the entries of a map. -/
def readMap {α β : Type} [Ord α] [Std.TransOrd α] (readKey : Reader α) (readValue : Reader β) :
    Reader (Std.ExtTreeMap α β) := fun b =>
  (readList (readPair readKey readValue) b).map fun (entries, rest) =>
    (entries.foldl (fun m (k, v) => m.insert k v) ∅, rest)

/-! ## Ratings -/

/-- Writes ratings. -/
def ratings (r : Ratings Binary64) : Bytes := list (pair word float) r.toList

/-- Reads ratings. -/
def readRatings : Reader (Ratings Binary64) := readMap readWord readFloat

/-! ## Parts of a snapshot -/

/-- Writes an index with the entries of its dictionary in a given arrangement. -/
def indexArranged (entries : List (String × TermId)) (x : TermIndex) : Bytes :=
  list (pair text word) entries ++ list text x.terms.toList ++ list word x.frequencies.toList

/-- Reads an index. -/
def readIndex : Reader TermIndex := fun b =>
  match readMap readText readWord b with
  | none => none
  | some (dictionary, rest) =>
    (readPair (readList readText) (readList readWord) rest).map fun ((terms, frequencies), rest) =>
      ({ dictionary, terms := terms.toArray, frequencies := frequencies.toArray }, rest)

/-- Writes a document. -/
def document (d : Document) : Bytes := word d.id ++ text d.title ++ list text d.tokens

/-- Reads a document. -/
def readDocument : Reader Document := fun b =>
  (readPair readWord (readPair readText (readList readText)) b).map
    fun ((id, title, tokens), rest) => ({ id, title, tokens }, rest)

/-- Writes a term vector. -/
def vector (v : TermVector) : Bytes := list (pair word word) v.toList

/-- Reads a term vector. -/
def readVector : Reader TermVector := readMap readWord readWord

/-- The value at the front of stored bytes. -/
def decode {α : Type} (read : Reader α) (b : Bytes) : Except Error α :=
  match read b with
  | some (x, _) => .ok x
  | none => .error .encoding

end DocSearch.Layout
