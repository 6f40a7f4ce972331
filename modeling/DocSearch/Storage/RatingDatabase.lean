import DocSearch.Rating.Store
import DocSearch.Storage.Layout

/-!
# Rating database

Ratings in a database that maps names to bytes and keeps them from one run to the next. The ratings
of a name are one entry, so that saving replaces all of them at once.
-/

namespace DocSearch

/-- At which step saving fails. -/
inductive SaveFault where
  /-- The ratings cannot be laid out as bytes. -/
  | encoding
  /-- The entry cannot be replaced. -/
  | insertion
  /-- The entry is replaced but not made durable. -/
  | durability
deriving DecidableEq, Repr

/-- A database of ratings. -/
structure RatingDatabase where
  /-- The entry of each name. -/
  entries : Std.ExtTreeMap String Bytes := ∅
  /-- If given, saving fails at this step. -/
  fault : Option SaveFault := none
deriving DecidableEq

namespace RatingDatabase

/-- The database with an entry replaced. -/
def put (d : RatingDatabase) (space : String) (value : Bytes) : RatingDatabase :=
  { d with entries := d.entries.insert space value }

/-- The ratings stored under a name. -/
def load (d : RatingDatabase) (space : String) : Except Error (Ratings Binary64) :=
  match d.entries[space]? with
  | some value => Layout.decode Layout.readRatings value
  | none => .ok ∅

/-- Stores ratings under a name. -/
def save (d : RatingDatabase) (space : String) (r : Ratings Binary64) :
    Except Error Unit × RatingDatabase :=
  match d.fault with
  | some .encoding => (.error .encoding, d)
  | some .insertion => (.error .storage, d)
  | some .durability => (.error .storage, d.put space (Layout.ratings r))
  | none => (.ok (), d.put space (Layout.ratings r))

instance : RatingStore RatingDatabase Binary64 where
  load := load
  save := save

/-- A database as bytes: a map from names to the bytes of their entries. -/
def encode (d : RatingDatabase) : Bytes :=
  Layout.list (Layout.pair Layout.text Layout.bytes) d.entries.toList

/-- The database that bytes stand for. -/
def decode (b : Bytes) : Except Error RatingDatabase :=
  match Layout.readMap Layout.readText Layout.readBytes b with
  | some (entries, _) => .ok { entries }
  | none => .error .storage

end RatingDatabase

end DocSearch
