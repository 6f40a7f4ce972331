import DocSearch.Query.Literal

/-!
# Disjunctive normal form

What the ranking models work on: a disjunction of conjunctions, with cases of their own for the
query without terms and for the two constants.
-/

namespace DocSearch.Query

/-- A query in disjunctive normal form. -/
inductive Dnf where
  /-- The query has no terms; it matches nothing. -/
  | empty
  /-- The query cannot be satisfied. -/
  | never
  /-- Every document satisfies the query. -/
  | always
  /-- Some of the conjunctions has to hold. -/
  | clauses (conjunctions : List Conjunction)
deriving DecidableEq, Repr

namespace Dnf

/-- The truth value of a query. -/
def eval (a : Assignment) : Dnf → Bool
  | .empty => false
  | .never => false
  | .always => true
  | .clauses cs => cs.any (·.eval a)

/-- The conjunctions of a query; the cases without any have none. -/
def conjunctions : Dnf → List Conjunction
  | .clauses cs => cs
  | _ => []

/-- The distinct tokens of a query in ascending order. -/
def tokens (d : Dnf) : List String :=
  ascending (d.conjunctions.flatMap fun c => c.literals.map Literal.token)

/-- A conjunction as text, in parentheses if it stands beside others and is longer than one
literal. -/
def renderClause (alone : Bool) (c : Conjunction) : String :=
  if alone || c.literals.length ≤ 1 then c.render else "(" ++ c.render ++ ")"

/-- A query as text. -/
def render : Dnf → String
  | .empty => ""
  | .never => "false"
  | .always => "true"
  | .clauses cs => " | ".intercalate (cs.map (renderClause (cs.length ≤ 1)))

end Dnf

end DocSearch.Query
