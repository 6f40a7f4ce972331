import DocSearch.Query.Dnf
import DocSearch.Ranking.Basic

/-!
# Boolean model

A document is a hit exactly if the query is true of it, reading each token of the query as "occurs
in the document". All hits have the score one.
-/

namespace DocSearch.Boolean

variable {α : Type} [Scalar α]

/-- Which tokens occur according to a term vector. -/
def occurs (x : TermIndex) (v : TermVector) : Query.Assignment := fun token =>
  match x.termId? token with
  | some t => v.contains t
  | none => false

/-- The ranking for a query in normal form. -/
def rank (c : Corpus α) (query : Query.Dnf) : Ranking α :=
  Ranking.ofList <|
    (c.documents.entries.filter fun (_, v) => query.eval (occurs c.index v)).map
      fun (d, _) => (d.id, Scalar.one)

end DocSearch.Boolean
