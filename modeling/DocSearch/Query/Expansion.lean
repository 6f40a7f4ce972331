import DocSearch.Query.Error
import DocSearch.Query.Expr

/-!
# Expansion into conjunctions

Negations are pushed down to the literals and conjunctions are distributed over disjunctions. A
negated conjunction expands like a disjunction of the negated operands and the other way round.
Products drop contradictory conjunctions and repetitions as they are formed. The number of
conjunctions is checked at every step, for a product before it is formed, so that an oversized
query costs no more than an allowed one.
-/

namespace DocSearch.Query

/-- Passes a number of conjunctions that is not too large. -/
def checkSize (n : Nat) : Except QueryError Unit :=
  if maxConjunctions < n then .error .tooManyConjunctions else .ok ()

/-- All conjunctions of one from the left and one from the right list, normal, distinct and
ascending. -/
def product (left right : List Conjunction) : List Conjunction :=
  ascending <| left.flatMap fun c =>
    right.filterMap fun d => Conjunction.ofLiterals? (c.literals ++ d.literals)

mutual

/-- The conjunctions of an expression or, if `negated`, of its negation. -/
def expand (negated : Bool) : Expr → Except QueryError (List Conjunction)
  | .literal t => .ok [⟨[⟨t, negated⟩]⟩]
  | .not e => expand (!negated) e
  | .and es => if negated then expandUnion negated [] es else expandProduct negated [⟨[]⟩] es
  | .or es => if negated then expandProduct negated [⟨[]⟩] es else expandUnion negated [] es

/-- The conjunctions `acc` together with those of all operands. -/
def expandUnion (negated : Bool) (acc : List Conjunction) :
    List Expr → Except QueryError (List Conjunction)
  | [] => .ok acc
  | e :: es => do
    let cs ← expand negated e
    checkSize (acc.length + cs.length)
    expandUnion negated (acc ++ cs) es

/-- The products of the conjunctions `acc` with those of all operands. -/
def expandProduct (negated : Bool) (acc : List Conjunction) :
    List Expr → Except QueryError (List Conjunction)
  | [] => .ok acc
  | e :: es => do
    let cs ← expand negated e
    checkSize (acc.length * cs.length)
    let next := product acc cs
    checkSize next.length
    expandProduct negated next es

end

end DocSearch.Query
