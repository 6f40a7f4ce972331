import DocSearch.Query.Token

/-!
# Errors in queries
-/

namespace DocSearch.Query

/-- The largest number of conjunctions that a query may expand to. -/
def maxConjunctions : Nat := 4096

/-- Why a query is rejected. -/
inductive QueryError where
  /-- A closing parenthesis has no opening one. -/
  | unexpectedClosing
  /-- A token stands behind a complete query. -/
  | unexpected (token : Token)
  /-- There is nothing between two parentheses. -/
  | emptyParentheses
  /-- An opening parenthesis is not closed. -/
  | missingClosing
  /-- An operand is expected where the token stands. -/
  | expectedTerm (found : Token)
  /-- An operand is expected at the end. -/
  | unexpectedEnd
  /-- The query expands to more conjunctions than are allowed. -/
  | tooManyConjunctions
deriving DecidableEq, Repr

/-- The explanation given to the user. -/
def QueryError.message : QueryError → String
  | .unexpectedClosing => "unbalanced parentheses: unexpected ')'"
  | .unexpected t => "unexpected " ++ t.describe
  | .emptyParentheses => "empty parentheses"
  | .missingClosing => "unbalanced parentheses: missing ')'"
  | .expectedTerm t => "expected a term, found " ++ t.describe
  | .unexpectedEnd => "unexpected end of query"
  | .tooManyConjunctions =>
    "query expands to more than " ++ toString maxConjunctions ++ " conjunctions"

end DocSearch.Query
