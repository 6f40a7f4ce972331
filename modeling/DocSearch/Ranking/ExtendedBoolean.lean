import DocSearch.Query.Dnf
import DocSearch.Ranking.Basic

/-!
# Extended boolean model

Here a query is true of a document to a degree. A token weighs its frequency in the document times
its rarity in the corpus, both scaled to at most one. A conjunction is the better the closer the
weights are to all ones, in the mean square; a disjunction the farther they are from all zeros. So
a document that satisfies a part of the query stands between those that satisfy it and those that
do not. Negation is not gradual: a negated token weighs one where the token weighs nothing, and
zero elsewhere.
-/

namespace DocSearch.ExtendedBoolean

open Query (Dnf Conjunction Literal)

variable {α : Type} [Scalar α]

/-- The weight of a token in a document, zero for a token that is not indexed. -/
def termWeight (c : Corpus α) (id : DocId) (token : String) : α :=
  match c.index.termId? token with
  | some t => c.tf t id * c.normalizedIdf t
  | none => Scalar.zero

/-- The weight of a literal in a document. -/
def literalWeight (c : Corpus α) (id : DocId) (l : Literal) : α :=
  let w := termWeight c id l.token
  if l.negated then
    if Scalar.isZero w then Scalar.one else Scalar.zero
  else w

/-- How close weights are to all ones: one less their mean square distance. -/
def closeness (weights : List α) : α :=
  Scalar.one - Scalar.sqrt
    (Scalar.sum (weights.map fun w => Scalar.square (Scalar.one - w)) / Scalar.ofNat weights.length)

/-- How far weights are from all zeros: their mean square. -/
def remoteness (weights : List α) : α :=
  Scalar.sqrt (Scalar.sum (weights.map Scalar.square) / Scalar.ofNat weights.length)

/-- The weight of a conjunction with the given weights of its literals. -/
def allWeight : List α → α
  | [] => Scalar.zero
  | [w] => w
  | ws => closeness ws

/-- The weight of a disjunction with the given weights of its conjunctions. -/
def anyWeight : List α → α
  | [] => Scalar.zero
  | [w] => w
  | ws => remoteness ws

/-- The weight of a conjunction in a document. -/
def conjunctionWeight (c : Corpus α) (id : DocId) (q : Conjunction) : α :=
  allWeight (q.literals.map (literalWeight c id))

/-- The weight of a query in a document. -/
def weight (c : Corpus α) (id : DocId) : Dnf → α
  | .empty => Scalar.zero
  | .never => Scalar.zero
  | .always => Scalar.one
  | .clauses qs => anyWeight (qs.map (conjunctionWeight c id))

/-- The ranking for a query in normal form: the documents with a weight above zero. -/
def rank (c : Corpus α) (query : Dnf) : Ranking α :=
  Ranking.ofList <|
    (c.documents.ids.map fun id => (id, weight c id query)).filter
      fun (_, w) => Scalar.lt Scalar.zero w

end DocSearch.ExtendedBoolean
