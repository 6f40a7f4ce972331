import DocSearch.Text.Stem
import DocSearch.Text.Stopword
import DocSearch.Text.Words

/-!
# Analyzers

An analyzer turns text into the tokens that are indexed. Both settings are choices of the user; a
query meets the tokens of a document only if the same stemming was chosen for both.
-/

namespace DocSearch

/-- How text is turned into tokens. -/
structure Analyzer where
  /-- Words are replaced by their stems. -/
  stemming : Bool := false
  /-- Stopwords of documents are left out. -/
  removeStopwords : Bool := true
deriving DecidableEq, Repr

namespace Analyzer

/-- The token of a word: its stem, or the word itself. -/
def token (a : Analyzer) (word : String) : String :=
  if a.stemming then Text.stem word else word

/-- The word is left out of documents. -/
def drops (a : Analyzer) (word : String) : Bool :=
  a.removeStopwords && Text.isStopword word

/-- The tokens of a text, in order. -/
def analyze (a : Analyzer) (text : String) : List String :=
  ((Text.words text).filter (!a.drops ·)).map a.token

end Analyzer

end DocSearch
