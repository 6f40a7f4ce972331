import DocSearch.Query.Expansion
import DocSearch.Query.Parser
import DocSearch.Query.Simplify

/-!
# Compiling queries

From the text of a query to its expression and on to its normal form.
-/

namespace DocSearch.Query

/-- How queries are read. -/
structure Compiler where
  /-- The analyzer whose stemming is applied to terms. -/
  analyzer : Analyzer := {}
  /-- Words, after stemming, that are dropped from queries. -/
  reserved : List String := []
deriving Repr

namespace Compiler

/-- The tokens of a query with every `and` written out. -/
def tokens (c : Compiler) (query : String) : List Token :=
  Token.joinOperands (Token.scan c.analyzer c.reserved query)

/-- The expression of a query, or nothing if no token is left of it. -/
def parse (c : Compiler) (query : String) : Except QueryError (Option Expr) :=
  match c.tokens query with
  | [] => .ok none
  | ts => (parseTokens ts).map some

/-- The normal form of a query. -/
def compile (c : Compiler) (query : String) : Except QueryError Dnf := do
  match ← c.parse query with
  | none => return .empty
  | some e => return simplify (← expand false e)

end Compiler

end DocSearch.Query
