/-!
# Literals and conjunctions

A literal asks for a token or for its absence, a conjunction for all of its literals. Literals are
ordered by token and then by sign, the plain one first, so that a literal and its negation are
neighbours in a sorted list. Tokens are ordered by code point.
-/

namespace DocSearch.Query

/-- Which tokens are present. -/
abbrev Assignment := String → Bool

/-- The members of a list, equal neighbours once. -/
def dropRepeats {α : Type} [DecidableEq α] : List α → List α
  | [] => []
  | [a] => [a]
  | a :: b :: l => if a = b then dropRepeats (b :: l) else a :: dropRepeats (b :: l)

/-- The distinct members of a list in ascending order. -/
def ascending {α : Type} [Ord α] [DecidableEq α] (l : List α) : List α :=
  dropRepeats (l.mergeSort fun a b => (compare a b).isLE)

/-- A token, possibly negated. -/
structure Literal where
  /-- The token asked for. -/
  token : String
  /-- The token has to be absent. -/
  negated : Bool
deriving DecidableEq, Repr

instance : Ord Literal :=
  ⟨compareLex (compareOn Literal.token) (compareOn Literal.negated)⟩

namespace Literal

/-- The literal holds when exactly the tokens of the assignment are present. -/
def eval (a : Assignment) (l : Literal) : Bool :=
  a l.token != l.negated

/-- The literal as text, a negated one behind a tilde. -/
def render (l : Literal) : String :=
  if l.negated then "~" ++ l.token else l.token

end Literal

/-- A conjunction of literals. In a normal form they ascend and no token occurs twice. -/
structure Conjunction where
  /-- The literals. -/
  literals : List Literal
deriving DecidableEq, Repr

instance : Ord Conjunction := ⟨compareOn Conjunction.literals⟩

namespace Conjunction

/-- All literals hold. -/
def eval (a : Assignment) (c : Conjunction) : Bool :=
  c.literals.all (·.eval a)

/-- The conjunction as text. -/
def render (c : Conjunction) : String :=
  " & ".intercalate (c.literals.map Literal.render)

/-- Neighbours in a list of literals have the same token. -/
def hasTokenTwice : List Literal → Bool
  | a :: b :: l => a.token = b.token || hasTokenTwice (b :: l)
  | _ => false

/-- The normal form of a conjunction of literals, or nothing if it contradicts itself. -/
def ofLiterals? (literals : List Literal) : Option Conjunction :=
  let sorted := ascending literals
  if hasTokenTwice sorted then none else some ⟨sorted⟩

/-- Every member of the first ascending list is one of the second. -/
def isSublist : List Literal → List Literal → Bool
  | [], _ => true
  | _ :: _, [] => false
  | a :: as, b :: bs =>
    match compare a b with
    | .lt => false
    | .eq => isSublist as bs
    | .gt => isSublist (a :: as) bs

/-- The conjunction absorbs `d`: its literals are among those of `d`. -/
def absorbs (c d : Conjunction) : Bool :=
  isSublist c.literals d.literals

end Conjunction

end DocSearch.Query
