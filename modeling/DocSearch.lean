import DocSearch.Command.Arguments
import DocSearch.Command.Basic
import DocSearch.Command.Run
import DocSearch.Command.Timestamp
import DocSearch.Command.Workspace
import DocSearch.Error
import DocSearch.Index.Corpus
import DocSearch.Index.Document
import DocSearch.Index.DocumentStore
import DocSearch.Index.Snapshot
import DocSearch.Index.Store
import DocSearch.Index.TermIndex
import DocSearch.Index.TermVector
import DocSearch.Ingest
import DocSearch.Json.Node
import DocSearch.Json.Numeral
import DocSearch.Json.Quoted
import DocSearch.Json.Record
import DocSearch.Main
import DocSearch.Numeric.Binary64
import DocSearch.Numeric.Fixed
import DocSearch.Numeric.Positional
import DocSearch.Numeric.Reading
import DocSearch.Numeric.Scalar
import DocSearch.Numeric.Shortest
import DocSearch.Proofs.Command.Input
import DocSearch.Proofs.Command.Transition
import DocSearch.Proofs.Command.Workspace
import DocSearch.Proofs.Index.BagOfWords
import DocSearch.Proofs.Index.Construction
import DocSearch.Proofs.Index.Corpus
import DocSearch.Proofs.Index.MostFrequent
import DocSearch.Proofs.Index.Statistics
import DocSearch.Proofs.Ingest.Basic
import DocSearch.Proofs.Ingest.Directory
import DocSearch.Proofs.Ingest.Formats
import DocSearch.Proofs.Json.Array
import DocSearch.Proofs.Json.Literal
import DocSearch.Proofs.Json.Record
import DocSearch.Proofs.Json.Value
import DocSearch.Proofs.Json.Written
import DocSearch.Proofs.Numeric.Binary64
import DocSearch.Proofs.Query.Absorption
import DocSearch.Proofs.Query.Canonical
import DocSearch.Proofs.Query.Conjunction
import DocSearch.Proofs.Query.Expansion
import DocSearch.Proofs.Query.ExpansionSize
import DocSearch.Proofs.Query.Flattening
import DocSearch.Proofs.Query.Grammar
import DocSearch.Proofs.Query.Juxtaposition
import DocSearch.Proofs.Query.Meaning
import DocSearch.Proofs.Query.Parsing
import DocSearch.Proofs.Query.Recognition
import DocSearch.Proofs.Query.Rewriting
import DocSearch.Proofs.Query.Simplification
import DocSearch.Proofs.Query.Spelling
import DocSearch.Proofs.Query.Splitting
import DocSearch.Proofs.Ranking.Basic
import DocSearch.Proofs.Ranking.Boolean
import DocSearch.Proofs.Ranking.Cosine
import DocSearch.Proofs.Ranking.ExtendedBoolean
import DocSearch.Proofs.Ranking.Listing
import DocSearch.Proofs.Ranking.Mean
import DocSearch.Proofs.Ranking.Rearrangement
import DocSearch.Proofs.Ranking.Vector
import DocSearch.Proofs.Rating.Call
import DocSearch.Proofs.Rating.Feedback
import DocSearch.Proofs.Rating.Prediction
import DocSearch.Proofs.Rating.Recommendation
import DocSearch.Proofs.Rating.Sharing
import DocSearch.Proofs.Storage.Agreement
import DocSearch.Proofs.Storage.Below
import DocSearch.Proofs.Storage.Directories
import DocSearch.Proofs.Storage.FailedSave
import DocSearch.Proofs.Storage.FileTree
import DocSearch.Proofs.Storage.IndexHeader
import DocSearch.Proofs.Storage.Interruption
import DocSearch.Proofs.Storage.Layout
import DocSearch.Proofs.Storage.Loading
import DocSearch.Proofs.Storage.Opening
import DocSearch.Proofs.Storage.RatingDatabase
import DocSearch.Proofs.Storage.Saving
import DocSearch.Proofs.Storage.Stability
import DocSearch.Proofs.Storage.Truncation
import DocSearch.Proofs.Text.Stem
import DocSearch.Proofs.Text.Words
import DocSearch.Proofs.Unicode.Alphanumeric
import DocSearch.Proofs.Unicode.CodeRange
import DocSearch.Proofs.Unicode.Devanagari
import DocSearch.Proofs.Unicode.Normalization
import DocSearch.Query.Compiler
import DocSearch.Query.Dnf
import DocSearch.Query.Error
import DocSearch.Query.Expansion
import DocSearch.Query.Expr
import DocSearch.Query.Literal
import DocSearch.Query.Parser
import DocSearch.Query.Simplify
import DocSearch.Query.Token
import DocSearch.Ranking.Basic
import DocSearch.Ranking.Boolean
import DocSearch.Ranking.ExtendedBoolean
import DocSearch.Ranking.Model
import DocSearch.Ranking.Vector
import DocSearch.Rating.Ratings
import DocSearch.Rating.Recommender
import DocSearch.Rating.Store
import DocSearch.Storage.Bytes
import DocSearch.Storage.FileTree
import DocSearch.Storage.IndexFiles
import DocSearch.Storage.IndexHeader
import DocSearch.Storage.Layout
import DocSearch.Storage.RatingDatabase
import DocSearch.Text.Analyzer
import DocSearch.Text.Stem
import DocSearch.Text.Stopword
import DocSearch.Text.Words
import DocSearch.Unicode.Alphabetic
import DocSearch.Unicode.Blank
import DocSearch.Unicode.Case
import DocSearch.Unicode.Category
import DocSearch.Unicode.CodeRange
import DocSearch.Unicode.CombiningClass
import DocSearch.Unicode.Composition
import DocSearch.Unicode.Decomposition
import DocSearch.Unicode.Hangul
import DocSearch.Unicode.Lowercase
import DocSearch.Unicode.Normalization
import DocSearch.Proofs.Ingest.Formats
