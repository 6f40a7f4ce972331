import DocSearch.Query.Error
import DocSearch.Query.Expr

/-!
# Parsing queries

The grammar, with `not` binding tightest and `or` loosest:

* a disjunction is one conjunction or several joined by `or`,
* a conjunction is one factor or several joined by `and`,
* a factor is `not` with a factor, a term, or a disjunction in parentheses.

One token decides how to go on, so each function either reads the longest phrase of its kind and
returns the tokens behind it, or fails at the first token that cannot be part of a query. Every
phrase has at least one token; that is what makes the recursion end.
-/

namespace DocSearch.Query

/-- The outcome of reading a phrase at the start of the tokens `ts`. -/
structure Phrase (ts : List Token) where
  /-- The tree of the phrase. -/
  expr : Expr
  /-- The tokens behind the phrase. -/
  rest : List Token
  /-- The phrase is not empty. -/
  rest_lt : rest.length < ts.length

/-- The outcome of reading further operands, possibly none, at the start of the tokens `ts`. -/
structure Operands (ts : List Token) where
  /-- The trees of the operands. -/
  exprs : List Expr
  /-- The tokens behind the operands. -/
  rest : List Token
  /-- Tokens are only taken off the front. -/
  rest_le : rest.length ≤ ts.length

mutual

/-- Reads a disjunction. -/
def parseDisjunction (ts : List Token) : Except QueryError (Phrase ts) :=
  match parseConjunction ts with
  | .error e => .error e
  | .ok p =>
    have := p.rest_lt
    match parseAlternatives p.rest with
    | .error e => .error e
    | .ok q => .ok ⟨.anyOf (p.expr :: q.exprs), q.rest, by have := q.rest_le; omega⟩
termination_by 6 * ts.length + 4

/-- Reads the operands of a disjunction behind the first, each behind an `or`. -/
def parseAlternatives (ts : List Token) : Except QueryError (Operands ts) :=
  match ts with
  | .or :: us =>
    match parseConjunction us with
    | .error e => .error e
    | .ok p =>
      have := p.rest_lt
      match parseAlternatives p.rest with
      | .error e => .error e
      | .ok q =>
        .ok ⟨p.expr :: q.exprs, q.rest, by
          have := q.rest_le; simp only [List.length_cons]; omega⟩
  | us => .ok ⟨[], us, Nat.le_refl _⟩
termination_by 6 * ts.length + 5
decreasing_by all_goals (simp only [List.length_cons]; omega)

/-- Reads a conjunction. -/
def parseConjunction (ts : List Token) : Except QueryError (Phrase ts) :=
  match parseFactor ts with
  | .error e => .error e
  | .ok p =>
    have := p.rest_lt
    match parseFactors p.rest with
    | .error e => .error e
    | .ok q => .ok ⟨.allOf (p.expr :: q.exprs), q.rest, by have := q.rest_le; omega⟩
termination_by 6 * ts.length + 2

/-- Reads the operands of a conjunction behind the first, each behind an `and`. -/
def parseFactors (ts : List Token) : Except QueryError (Operands ts) :=
  match ts with
  | .and :: us =>
    match parseFactor us with
    | .error e => .error e
    | .ok p =>
      have := p.rest_lt
      match parseFactors p.rest with
      | .error e => .error e
      | .ok q =>
        .ok ⟨p.expr :: q.exprs, q.rest, by
          have := q.rest_le; simp only [List.length_cons]; omega⟩
  | us => .ok ⟨[], us, Nat.le_refl _⟩
termination_by 6 * ts.length + 3
decreasing_by all_goals (simp only [List.length_cons]; omega)

/-- Reads a factor. -/
def parseFactor (ts : List Token) : Except QueryError (Phrase ts) :=
  match ts with
  | .not :: us =>
    match parseFactor us with
    | .error e => .error e
    | .ok p => .ok ⟨.not p.expr, p.rest, by
        have := p.rest_lt; simp only [List.length_cons]; omega⟩
  | .term t :: us => .ok ⟨.literal t, us, by simp⟩
  | .opening :: .closing :: _ => .error .emptyParentheses
  | .opening :: us =>
    match parseDisjunction us with
    | .error e => .error e
    | .ok p =>
      match h : p.rest with
      | .closing :: vs =>
        .ok ⟨p.expr, vs, by
          have := p.rest_lt; rw [h] at this; simp only [List.length_cons] at this ⊢; omega⟩
      | _ => .error .missingClosing
  | t :: _ => .error (.expectedTerm t)
  | [] => .error .unexpectedEnd
termination_by 6 * ts.length
decreasing_by all_goals (simp only [List.length_cons]; omega)

end

/-- The expression that the tokens of a whole query write. -/
def parseTokens (ts : List Token) : Except QueryError Expr :=
  match parseDisjunction ts with
  | .error e => .error e
  | .ok p =>
    match p.rest with
    | [] => .ok p.expr
    | .closing :: _ => .error .unexpectedClosing
    | t :: _ => .error (.unexpected t)

end DocSearch.Query
