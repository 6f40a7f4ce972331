import DocSearch.Query.Literal

/-!
# Query expressions

The tree of a query as it was written, before it is brought into normal form. The constructors
`and` and `or` take any number of operands; `Expr.allOf` and `Expr.anyOf` build them flat, without
a conjunction directly inside a conjunction or a disjunction directly inside a disjunction.
-/

namespace DocSearch.Query

/-- A boolean expression over tokens. -/
inductive Expr where
  /-- The token is present. -/
  | literal (token : String)
  /-- The operand is false. -/
  | not (operand : Expr)
  /-- All operands are true. -/
  | and (operands : List Expr)
  /-- Some operand is true. -/
  | or (operands : List Expr)
deriving Repr, Inhabited

namespace Expr

/-- The operands of a conjunction, or the expression itself. -/
def conjuncts : Expr → List Expr
  | .and es => es
  | e => [e]

/-- The operands of a disjunction, or the expression itself. -/
def disjuncts : Expr → List Expr
  | .or es => es
  | e => [e]

/-- The conjunction of the operands, nested conjunctions spread out. A single operand stays as it
is. -/
def allOf (operands : List Expr) : Expr :=
  match operands.flatMap conjuncts with
  | [e] => e
  | es => .and es

/-- The disjunction of the operands, nested disjunctions spread out. A single operand stays as it
is. -/
def anyOf (operands : List Expr) : Expr :=
  match operands.flatMap disjuncts with
  | [e] => e
  | es => .or es

mutual

/-- The truth value of an expression. -/
def eval (a : Assignment) : Expr → Bool
  | .literal t => a t
  | .not e => !eval a e
  | .and es => evalAll a es
  | .or es => evalAny a es

/-- All expressions of a list are true. -/
def evalAll (a : Assignment) : List Expr → Bool
  | [] => true
  | e :: es => eval a e && evalAll a es

/-- Some expression of a list is true. -/
def evalAny (a : Assignment) : List Expr → Bool
  | [] => false
  | e :: es => eval a e || evalAny a es

end

theorem evalAll_eq_all (a : Assignment) (es : List Expr) : evalAll a es = es.all (eval a) := by
  induction es with
  | nil => simp [evalAll]
  | cons e es ih => simp [evalAll, ih]

theorem evalAny_eq_any (a : Assignment) (es : List Expr) : evalAny a es = es.any (eval a) := by
  induction es with
  | nil => simp [evalAny]
  | cons e es ih => simp [evalAny, ih]

mutual

/-- The tokens of an expression in reading order, with repetitions. -/
def occurrences : Expr → List String
  | .literal t => [t]
  | .not e => occurrences e
  | .and es => occurrencesIn es
  | .or es => occurrencesIn es

/-- The tokens of a list of expressions in reading order, with repetitions. -/
def occurrencesIn : List Expr → List String
  | [] => []
  | e :: es => occurrences e ++ occurrencesIn es

end

/-- The distinct tokens of an expression in ascending order. -/
def tokens (e : Expr) : List String :=
  ascending e.occurrences

end Expr

end DocSearch.Query
