import DocSearch.Query.Compiler
import DocSearch.Ranking.Boolean
import DocSearch.Ranking.ExtendedBoolean
import DocSearch.Ranking.Vector
import DocSearch.Rating.Recommender

/-!
# Ranking models

A model ranks the documents of a corpus for the text of a query. The two boolean models compile the
query; the vector model only analyzes it and rejects nothing. A query put to the extended boolean
model counts as feedback: its best document is rated as relevant.
-/

namespace DocSearch

/-- The kinds of ranking models. -/
inductive ModelKind where
  /-- Documents that satisfy the query. -/
  | boolean
  /-- Documents by the degree to which they satisfy the query. -/
  | extendedBoolean
  /-- Documents by the angle between their terms and those of the query. -/
  | vector
deriving DecidableEq, Repr

namespace ModelKind

/-- The name of a kind. -/
def name : ModelKind → String
  | .boolean => "boolean"
  | .extendedBoolean => "extended-boolean"
  | .vector => "vector"

/-- The kind that a name in upper or lower case stands for. -/
def ofName (name : String) : Except Error ModelKind :=
  let s := Unicode.lowercase name
  if s = "boolean" then .ok .boolean
  else if s = "extended" || s = "extended-boolean" || s = "extended_boolean" then
    .ok .extendedBoolean
  else if s = "vector" then .ok .vector
  else .error (.unknownModel name)

end ModelKind

/-- A ranking model with its settings. -/
inductive Model (α : Type) where
  /-- The boolean model. -/
  | boolean (compiler : Query.Compiler)
  /-- The extended boolean model. -/
  | extendedBoolean (compiler : Query.Compiler)
  /-- The vector model. -/
  | vector (analyzer : Analyzer) (params : Vector.Params α)

namespace Model

variable {σ α : Type} [Scalar α] [RatingStore σ α]

/-- The model of a kind with the settings used when only the analyzer is given. -/
def ofKind (kind : ModelKind) (analyzer : Analyzer) : Model α :=
  match kind with
  | .boolean => .boolean { analyzer }
  | .extendedBoolean => .extendedBoolean { analyzer }
  | .vector => .vector analyzer .default

omit [Scalar α] in
/-- The kind of a model. -/
def kind : Model α → ModelKind
  | .boolean _ => .boolean
  | .extendedBoolean _ => .extendedBoolean
  | .vector _ _ => .vector

/-- The ranking of a corpus for a query. -/
def rank (m : Model α) (c : Corpus α) (query : String) : Except Error (Ranking α) :=
  match m with
  | .boolean compiler => ((compiler.compile query).map (Boolean.rank c)).mapError .invalidQuery
  | .extendedBoolean compiler =>
    ((compiler.compile query).map (ExtendedBoolean.rank c)).mapError .invalidQuery
  | .vector analyzer params =>
    .ok (Vector.rank c params (c.index.bagOfWords (analyzer.analyze query)))

/-- The documents found for a query, the best first. -/
def query (m : Model α) (c : Corpus α) (query : String) : Except Error (List Document) :=
  (m.rank c query).map (·.documents c)

/-- The documents found for a query, the best first, by a model that a recommender is attached to.
The extended boolean model records feedback; if that fails, so does the query. -/
def queryAttached (m : Model α) (c : Corpus α) (r : Recommender α) (store : σ) (query : String) :
    Except Error (List Document) × Recommender α × σ :=
  match m.rank c query with
  | .error e => (.error e, r, store)
  | .ok ranking =>
    match m.kind with
    | .extendedBoolean =>
      let (outcome, r', store) := r.recordFeedback store ranking
      (outcome.map fun _ => ranking.documents c, r', store)
    | _ => (.ok (ranking.documents c), r, store)

/-- The documents found for a query by a model with a recommender of the same corpus. -/
def queryWith (m : Model α) (r : Recommender α) (store : σ) (query : String) :
    Except Error (List Document) × Recommender α × σ :=
  m.queryAttached r.corpus r store query

end Model

end DocSearch
