import DocSearch.Command.Basic
import DocSearch.Ingest
import DocSearch.Storage.IndexFiles
import DocSearch.Storage.RatingDatabase

/-!
# Workspace

All that commands read and write: a file tree and the rating databases, each of which occupies a
directory of the tree.
-/

namespace DocSearch

/-- The surroundings of a command. -/
structure Workspace where
  /-- The files and directories. -/
  files : FileTree := {}
  /-- The rating databases by the place of their directory. -/
  databases : Std.ExtTreeMap (List String) RatingDatabase := ∅
  /-- The time. -/
  now : String := ""
deriving DecidableEq

namespace Workspace

/-- The index in a directory. -/
def indexFiles (w : Workspace) (path : String) : IndexFiles where
  tree := w.files
  root := Path.ofText path
  now := w.now

/-- The documents of an input. -/
def documents (w : Workspace) (a : Analyzer) (input : Option String) :
    Except Error (List Document) :=
  Ingest.documents w.files a (input.map Path.ofText)

/-- Builds the index of an input and saves it in place of one that is there. -/
def buildIndex (w : Workspace) (index : IndexChoice) (input : String) :
    Except Error (Corpus Binary64) × Workspace :=
  match (w.documents index.analyzer (some input)).bind Corpus.build with
  | .error e => (.error e, w)
  | .ok c =>
    let (outcome, f) := c.saveTo (w.indexFiles index.path)
    (outcome, { w with files := f.tree })

/-- Opens an index; if there is none, it is built from the input and saved. -/
def openIndex (w : Workspace) (index : IndexChoice) (input : Option String) :
    Except Error (Corpus Binary64) × Workspace :=
  let o : Obtained IndexFiles Binary64 :=
    Corpus.obtain (w.indexFiles index.path) (w.documents index.analyzer input)
  (o.corpus, { w with files := o.store.tree })

/-- The database in a directory, empty if there is none. -/
def database (w : Workspace) (place : List String) : RatingDatabase := w.databases.getD place {}

/-- The workspace with a database replaced. -/
def setDatabase (w : Workspace) (place : List String) (d : RatingDatabase) : Workspace :=
  { w with databases := w.databases.insert place d }

/-- The place of a database; its directory is made if it is missing. -/
def openDatabase (w : Workspace) (path : String) : Except Error (List String) × Workspace :=
  let p := Path.ofText path
  match w.files.createDirectories p.plain with
  | .error _ => (.error .storage, w)
  | .ok files =>
    match files.locate p with
    | .error _ => (.error .storage, { w with files })
    | .ok place => (.ok place, { w with files })

/-- Opens the recommender of a corpus: the place of its database and the ratings in it. -/
def openRecommender (w : Workspace) (ratings : RatingChoice) (c : Corpus Binary64) :
    Except Error (List String × Recommender Binary64) × Workspace :=
  let (place, w) := w.openDatabase ratings.path
  (place.bind fun place =>
    (Recommender.load c (w.database place) ratings.space).map fun r => (place, r), w)

end Workspace

end DocSearch
