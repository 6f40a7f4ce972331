import DocSearch.Index.Corpus
import DocSearch.Rating.Store
import DocSearch.Ranking.Basic

/-!
# Recommender

The rating of a document is predicted from those of the rated documents that resemble it, weighted
by similarity. Two documents are similar to the degree to which they share their distinct terms.
Only the documents of the corpus are considered, or for each document the neighbours that are named
for it.

New ratings are in effect only when the store has them: if saving fails, the recommender stays as
it was.
-/

namespace DocSearch

/-- A corpus with the ratings of its documents. -/
structure Recommender (α : Type) where
  /-- The corpus that recommendations are taken from. -/
  corpus : Corpus α
  /-- The name under which the ratings are stored. -/
  space : String
  /-- The documents considered in place of the whole corpus. -/
  neighbors : Option (DocId → List DocId) := none
  /-- The ratings in effect. -/
  ratings : Ratings α

namespace Recommender

variable {σ α : Type} [Scalar α] [RatingStore σ α]

omit [Scalar α] in
/-- The recommender of a corpus with the ratings that are stored under a name. -/
def load (corpus : Corpus α) (store : σ) (space : String) : Except Error (Recommender α) :=
  (RatingStore.load store space).map fun ratings => { corpus, space, ratings }

/-! ## Predictions -/

/-- The share of the terms of either of two vectors that both have; zero if there are no terms. -/
def overlap (v w : TermVector) : α :=
  let common := v.common w
  let all := v.size + w.size - common
  if all = 0 then Scalar.zero else Scalar.ofNat common / Scalar.ofNat all

/-- The similarity of two documents, zero if one is unknown. -/
def similarity (r : Recommender α) (a b : DocId) : α :=
  match r.corpus.documents.vector? a, r.corpus.documents.vector? b with
  | some v, some w => overlap v w
  | _, _ => Scalar.zero

omit [Scalar α] in
/-- The documents considered for the prediction of a document. -/
def pool (r : Recommender α) (id : DocId) : List DocId :=
  match r.neighbors with
  | some neighbors => neighbors id
  | none => r.corpus.documents.ids

omit [Scalar α] in
/-- The rated ones among the documents considered, with their ratings. -/
def ratedPool (r : Recommender α) (id : DocId) : List (DocId × α) :=
  (r.pool id).filterMap fun n => r.ratings[n]?.map fun x => (n, x)

/-- The sums, over rated documents, of similarity times what the rating says, and of similarity. -/
def weighted (r : Recommender α) (mean : α) (id : DocId) : α × α :=
  (r.ratedPool id).foldl
    (fun (num, den) (n, x) =>
      let s := r.similarity id n
      (num + s * (x + r.ratings.baseline mean n), den + s))
    (Scalar.zero, Scalar.zero)

/-- The predicted rating of a document when the mean is known; zero if nothing rated is similar. -/
def predict (r : Recommender α) (mean : α) (id : DocId) : α :=
  let (num, den) := r.weighted mean id
  if Scalar.isZero den then Scalar.zero else r.ratings.baseline mean id + num / den

/-- The mean rating, if anything is rated. -/
def meanRating? (r : Recommender α) : Option α := r.ratings.mean?

/-- The deviation of a document from the mean, if anything is rated. -/
def deviation? (r : Recommender α) (id : DocId) : Option α :=
  r.meanRating?.map fun m => r.ratings.deviation m id

/-- The baseline of a document, if anything is rated. -/
def baseline? (r : Recommender α) (id : DocId) : Option α :=
  r.meanRating?.map fun m => r.ratings.baseline m id

/-- The predicted rating of a document, if anything is rated. -/
def expected? (r : Recommender α) (id : DocId) : Option α :=
  r.meanRating?.map fun m => r.predict m id

/-! ## Recommendations -/

/-- The order of recommendations: by ascending prediction, then by ascending id. -/
def comparePredictions (a b : DocId × α) : Ordering :=
  (Scalar.totalCompare a.2 b.2).then (compare a.1 b.1)

/-- The unrated documents of the corpus with their predictions, in order. -/
def predictions (r : Recommender α) (mean : α) : List (DocId × α) :=
  ((r.corpus.documents.ids.filter fun id => !r.ratings.contains id).map
    fun id => (id, r.predict mean id)).mergeSort fun a b => (comparePredictions a b).isLE

/-- The first `k` recommendations; none if nothing is rated. -/
def recommend (r : Recommender α) (k : Nat) : List DocId :=
  match r.meanRating? with
  | none => []
  | some m => ((r.predictions m).take k).map Prod.fst

/-- The documents of the first `k` recommendations. -/
def recommendDocuments (r : Recommender α) (k : Nat) : List Document :=
  (r.recommend k).filterMap r.corpus.document?

/-! ## Feedback -/

omit [Scalar α] in
/-- Adds ratings, of which the last for a document counts, and saves. -/
def addRatings (r : Recommender α) (store : σ) (pairs : List (DocId × α)) :
    Except Error Unit × Recommender α × σ :=
  let ratings := r.ratings.addAll pairs
  match RatingStore.save store r.space ratings with
  | (.ok (), store) => (.ok (), { r with ratings }, store)
  | (.error e, store) => (.error e, r, store)

omit [Scalar α] in
/-- Adds one rating and saves. -/
def addRating (r : Recommender α) (store : σ) (id : DocId) (rating : α) :
    Except Error Unit × Recommender α × σ :=
  r.addRatings store [(id, rating)]

/-- Rates the best document of a ranking with one; an empty ranking changes nothing. -/
def recordFeedback (r : Recommender α) (store : σ) (ranking : Ranking α) :
    Except Error Unit × Recommender α × σ :=
  match ranking with
  | [] => (.ok (), r, store)
  | (best, _) :: _ => r.addRating store best Scalar.one

/-- Rates the first `n` documents of a ranking with one. -/
def pseudoFeedback (r : Recommender α) (store : σ) (ranking : Ranking α) (n : Nat) :
    Except Error Unit × Recommender α × σ :=
  r.addRatings store ((ranking.take n).map fun (id, _) => (id, Scalar.one))

end Recommender

end DocSearch
