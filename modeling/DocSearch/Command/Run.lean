import DocSearch.Command.Workspace
import DocSearch.Numeric.Fixed
import DocSearch.Numeric.Shortest

/-!
# Running commands

A command is carried out on a workspace and reports what it has to say. If it fails, what it has
changed until then stays, and so does what it has said.
-/

namespace DocSearch

/-- What a command says. -/
structure Report where
  /-- Zero for success, one for failure, two for arguments that are not understood. -/
  code : Nat
  /-- The lines for the user. -/
  lines : List String := []
  /-- The message of a failure. -/
  failure : Option String := none
deriving DecidableEq, Repr

namespace Report

/-- The report of a success. -/
def success (lines : List String) : Report := { code := 0, lines }

/-- The report of a failure, possibly after some lines. -/
def failed (lines : List String) (message : String) : Report :=
  { code := 1, lines, failure := some ("Error: " ++ message) }

/-- The text for the user. -/
def text (r : Report) : String := String.join (r.lines.map (· ++ "\n"))

end Report

namespace Command

/-! ## Texts -/

/-- The message of an error. A query that is rejected can be corrected. -/
def describe : Error → String
  | .invalidQuery e =>
    (Error.invalidQuery e).message ++ "; check the operators and parentheses and try again"
  | e => e.message

/-- The line of a hit, with its place in the ranking. -/
def hitLine (c : Corpus Binary64) (hit : (DocId × Binary64) × Nat) : String :=
  let ((id, score), place) := hit
  let title := ((c.document? id).map Document.title).getD ""
  toString (place + 1) ++ ". [" ++ toString id.toNat ++ "] " ++ title ++
    " (" ++ Decimal.fixed 4 score ++ ")"

/-- The lines of the first hits of a ranking. -/
def hitLines (c : Corpus Binary64) (ranking : Ranking Binary64) (limit : Nat) : List String :=
  if ranking.isEmpty then ["no matching documents"]
  else ((ranking.take limit).zipIdx).map (hitLine c)

/-- The lines of recommendations. -/
def recommendationLines (documents : List Document) : List String :=
  if documents.isEmpty then ["no recommendations yet"]
  else "Recommended:" :: documents.map fun d => "  [" ++ toString d.id.toNat ++ "] " ++ d.title

/-! ## Commands -/

/-- Builds an index. -/
def runBuild (w : Workspace) (input : String) (index : IndexChoice) : Report × Workspace :=
  let (built, w) := w.buildIndex index input
  match built with
  | .error e => (.failed [] e.message, w)
  | .ok c =>
    (.success ["Indexed " ++ toString c.size ++ " docs, " ++ toString c.index.size ++
      " terms into " ++ index.path], w)

/-- The best document counts as relevant, and so do the first `n` if that is asked for. -/
def feedback (r : Recommender Binary64) (d : RatingDatabase) (ranking : Ranking Binary64)
    (pseudoFeedback : Option Nat) : Except Error Unit × Recommender Binary64 × RatingDatabase :=
  match r.recordFeedback d ranking, pseudoFeedback with
  | (.ok (), r, d), some n => r.pseudoFeedback d ranking n
  | result, _ => result

/-- Puts a query to the extended boolean model and records feedback. -/
def runExtended (w : Workspace) (c : Corpus Binary64) (text : String) (limit : Nat)
    (pseudoFeedback : Option Nat) (index : IndexChoice) (ratings : RatingChoice) :
    Report × Workspace :=
  let (opened, w) := w.openRecommender ratings c
  match opened with
  | .error e => (.failed [] e.message, w)
  | .ok (place, r) =>
    match (Model.ofKind .extendedBoolean index.analyzer : Model Binary64).rank c text with
    | .error e => (.failed [] (describe e), w)
    | .ok ranking =>
      let hits := hitLines c ranking limit
      let (outcome, r, d) := feedback r (w.database place) ranking pseudoFeedback
      let w := w.setDatabase place d
      match outcome with
      | .error e => (.failed hits e.message, w)
      | .ok () =>
        (.success (hits ++ "" ::
          recommendationLines (r.recommendDocuments defaultRecommendations)), w)

/-- Puts a query. -/
def runQuery (w : Workspace) (text : String) (kind : ModelKind) (limit : Nat)
    (pseudoFeedback : Option Nat) (index : IndexChoice) (input : Option String)
    (ratings : RatingChoice) : Report × Workspace :=
  let (opened, w) := w.openIndex index input
  match opened with
  | .error e => (.failed [] e.message, w)
  | .ok c =>
    if kind = .extendedBoolean then runExtended w c text limit pseudoFeedback index ratings
    else
      match (Model.ofKind kind index.analyzer : Model Binary64).rank c text with
      | .error e => (.failed [] (describe e), w)
      | .ok ranking => (.success (hitLines c ranking limit), w)

/-- Rates a document, which has to be in the corpus. -/
def runRate (w : Workspace) (id : DocId) (rating : Binary64) (index : IndexChoice)
    (input : Option String) (ratings : RatingChoice) : Report × Workspace :=
  let (opened, w) := w.openIndex index input
  match opened with
  | .error e => (.failed [] e.message, w)
  | .ok c =>
    let (opened, w) := w.openRecommender ratings c
    match opened with
    | .error e => (.failed [] e.message, w)
    | .ok (place, r) =>
      if (c.document? id).isNone then
        (.failed [] ("unknown document id " ++ toString id.toNat), w)
      else
        let (outcome, _, d) := r.addRating (w.database place) id rating
        let w := w.setDatabase place d
        match outcome with
        | .error e => (.failed [] e.message, w)
        | .ok () =>
          (.success ["rated [" ++ toString id.toNat ++ "] " ++ Decimal.shortest rating], w)

/-- Shows recommended documents. -/
def runRecommend (w : Workspace) (limit : Nat) (index : IndexChoice) (input : Option String)
    (ratings : RatingChoice) : Report × Workspace :=
  let (opened, w) := w.openIndex index input
  match opened with
  | .error e => (.failed [] e.message, w)
  | .ok c =>
    let (opened, w) := w.openRecommender ratings c
    match opened with
    | .error e => (.failed [] e.message, w)
    | .ok (_, r) => (.success (recommendationLines (r.recommendDocuments limit)), w)

/-- Carries out a command. -/
def run (w : Workspace) : Command → Report × Workspace
  | .build input index => runBuild w input index
  | .query text kind limit pseudoFeedback index input ratings =>
    runQuery w text kind limit pseudoFeedback index input ratings
  | .rate id rating index input ratings => runRate w id rating index input ratings
  | .recommend limit index input ratings => runRecommend w limit index input ratings

/-- The forms of the commands. -/
def usage : List String := [
  "usage: docsearch build --input PATH [--index DIR] [--stemming]",
  "       docsearch query QUERY [--model MODEL] [-k N] [--pseudo-feedback N] [OPTIONS]",
  "       docsearch rate ID RATING [OPTIONS]",
  "       docsearch recommend [-k N] [OPTIONS]",
  "options: --index DIR, --stemming, --input PATH, --ratings DIR, --namespace NAME"]

/-- Carries out what arguments ask for. -/
def runArguments (w : Workspace) (arguments : List String) : Report × Workspace :=
  match ofArguments arguments with
  | .ok c => run w c
  | .error .help => (.success usage, w)
  | .error .usage =>
    ({ code := 2, failure := some ("\n".intercalate usage) }, w)

end Command

end DocSearch
