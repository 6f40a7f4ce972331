import DocSearch.Json.Node

/-!
# Records in JSON

A record is a fixed list of named fields. It is written as an object that has each of the fields
exactly once, besides which it may have others, or as an array of the values in order. Two readers
differ in what they make of the rest of a text:

* the plain reader looks at the fields alone and minds nothing about the others;
* the strict reading of a value, `Node.settled?`, is for texts whose form is known only when they
  have been read: every value in the text has to be acceptable, and of members with the same name
  only the last one counts.
-/

namespace DocSearch.Json

namespace Node

/-- The value of a natural number of 32 bits, written with digits alone. -/
def word? : Node → Option UInt32
  | .number n =>
    match n.natural? with
    | some k => if k < UInt32.size then some k.toUInt32 else none
    | none => none
  | _ => none

/-- The value of a string. -/
def text? : Node → Option String
  | .string s => s
  | _ => none

/-- The value of the only member with a name. -/
def only? (members : List (Option String × Node)) (name : String) : Option Node :=
  match members.filter fun (n, _) => n = some name with
  | [(_, v)] => some v
  | _ => none

/-- The values of the fields of a record. -/
def record? (names : List String) : Node → Option (List Node)
  | .array items => if items.length = names.length then some items else none
  | .object members =>
    if members.all fun (n, _) => n.isSome then names.mapM (only? members) else none
  | _ => none

/-! ## Settled values -/

/-- How deep arrays and objects may be nested in a settled value. -/
def maxDepth : Nat := 127

mutual

/-- The value is acceptable with `depth` levels of nesting: its numbers are in range and its
strings are texts. -/
def acceptable (depth : Nat) : Node → Bool
  | .null => true
  | .bool _ => true
  | .number n => n.inRange
  | .string s => s.isSome
  | .array items => 0 < depth && acceptableItems (depth - 1) items
  | .object members => 0 < depth && acceptableMembers (depth - 1) members

/-- All values of a list are acceptable. -/
def acceptableItems (depth : Nat) : List Node → Bool
  | [] => true
  | v :: vs => acceptable depth v && acceptableItems depth vs

/-- All names and values of a list of members are acceptable. -/
def acceptableMembers (depth : Nat) : List (Option String × Node) → Bool
  | [] => true
  | (n, v) :: ms => n.isSome && acceptable depth v && acceptableMembers depth ms

end

/-- Of members with the same name the last one, in the place of the last one. -/
def lastOnly : List (Option String × Node) → List (Option String × Node)
  | [] => []
  | (n, v) :: ms => if ms.any fun (k, _) => k = n then lastOnly ms else (n, v) :: lastOnly ms

/-- A value whose own members have different names. -/
def settleMembers : Node → Node
  | .object members => .object (lastOnly members)
  | v => v

/-- The value of a text all of which is acceptable. -/
def settled? (text : List Char) : Option Node :=
  match ofText? text with
  | some v => if acceptable maxDepth v then some v else none
  | none => none

end Node

end DocSearch.Json
