import DocSearch.Command.Arguments
import DocSearch.Numeric.Reading
import DocSearch.Ranking.Model

/-!
# Commands

What can be asked for on the command line: build an index, put a query, rate a document, get
recommendations. All but the first open an index and build it from an input if there is none.
-/

namespace DocSearch

/-- The index of a command. -/
structure IndexChoice where
  /-- Its directory. -/
  path : String := "./index"
  /-- Tokens are stems. -/
  stemming : Bool := false
deriving DecidableEq, Repr

/-- The analyzer for an index. -/
def IndexChoice.analyzer (i : IndexChoice) : Analyzer := { stemming := i.stemming }

/-- The ratings of a command. -/
structure RatingChoice where
  /-- The directory of the database. -/
  path : String := "./ratings.db"
  /-- The name under which the ratings are stored. -/
  space : String := "default"
deriving DecidableEq, Repr

/-- A command. -/
inductive Command where
  /-- Builds an index from an input, in place of one that is there. -/
  | build (input : String) (index : IndexChoice)
  /-- Puts a query and shows the best results. -/
  | query (text : String) (model : ModelKind) (limit : Nat) (pseudoFeedback : Option Nat)
      (index : IndexChoice) (input : Option String) (ratings : RatingChoice)
  /-- Rates a document. -/
  | rate (id : DocId) (rating : Binary64)
      (index : IndexChoice) (input : Option String) (ratings : RatingChoice)
  /-- Shows recommended documents. -/
  | recommend (limit : Nat)
      (index : IndexChoice) (input : Option String) (ratings : RatingChoice)
deriving DecidableEq, Repr

namespace Command

/-- The paths that a command reads or writes. -/
def paths : Command → List String
  | .build input index => [input, index.path]
  | .query _ _ _ _ index input ratings => input.toList ++ [index.path, ratings.path]
  | .rate _ _ index input ratings => input.toList ++ [index.path, ratings.path]
  | .recommend _ index input ratings => input.toList ++ [index.path, ratings.path]

/-- The directory of the rating database, for a command that has one. -/
def ratingsPath? : Command → Option String
  | .build _ _ => none
  | .query _ _ _ _ _ _ ratings => some ratings.path
  | .rate _ _ _ _ ratings => some ratings.path
  | .recommend _ _ _ ratings => some ratings.path

/-! ## Values -/

/-- A natural number below a bound, written with digits that a plus sign may precede. -/
def naturalBelow? (bound : Nat) (s : String) : Option Nat :=
  let digits := match s.toList with
    | '+' :: r => r
    | r => r
  if digits ≠ [] ∧ digits.all Json.isDigit ∧ Json.decimal digits < bound then
    some (Json.decimal digits)
  else none

/-- A document id. Here a minus sign may stand in front of zero. -/
def documentId? (s : String) : Option DocId :=
  let n := match s.toList with
    | '-' :: r => if r ≠ [] ∧ r.all (· = '0') then some 0 else none
    | _ => naturalBelow? UInt32.size s
  n.map Nat.toUInt32

/-- A count, which fits a word of the machine. -/
def count? (s : String) : Option Nat := naturalBelow? UInt64.size s

/-- A path, which may not be empty. -/
def path? (s : String) : Option String := if s = "" then none else some s

/-- A ranking model by its name. -/
def model? (s : String) : Option ModelKind := (ModelKind.ofName s).toOption

/-- The value of an option that is given, or nothing if it is not given; refused if it cannot be
read. -/
def given {α : Type} (a : Arguments) (name : String) (read : String → Option α) :
    Except Refusal (Option α) :=
  match a.value? name with
  | none => .ok none
  | some s =>
    match read s with
    | some x => .ok (some x)
    | none => .error .usage

/-- The value of an operand. -/
def operand {α : Type} (a : Arguments) (i : Nat) (read : String → Option α) : Except Refusal α :=
  match (a.operands[i]?).bind read with
  | some x => .ok x
  | none => .error .usage

/-! ## Options -/

/-- The text can be read. -/
def reads {α : Type} (read : String → Option α) (s : String) : Bool := (read s).isSome

/-- An option whose value is read in some way. -/
def valued {α : Type} (name : String) (read : String → Option α) : OptionRule :=
  ⟨name, some (reads read)⟩

/-- An option without a value. -/
def flag (name : String) : OptionRule := ⟨name, none⟩

/-- The options that choose an index. -/
def indexOptions : List OptionRule :=
  [valued "index" path?, flag "stemming", valued "input" path?]

/-- The options that choose the ratings. -/
def ratingOptions : List OptionRule := [valued "ratings" path?, valued "namespace" some]

/-- The number of results of a query if none is given. -/
def defaultLimit : Nat := 10

/-- The number of recommendations if none is given. -/
def defaultRecommendations : Nat := 5

/-- The index that options choose. -/
def indexOf (a : Arguments) : Except Refusal IndexChoice := do
  let path ← given a "index" path?
  return { path := path.getD "./index", stemming := (a.value? "stemming").isSome }

/-- The ratings that options choose. -/
def ratingsOf (a : Arguments) : Except Refusal RatingChoice := do
  let path ← given a "ratings" path?
  return { path := path.getD "./ratings.db", space := (a.value? "namespace").getD "default" }

/-! ## Commands -/

/-- The arguments of building an index. -/
def ofBuild (arguments : List String) : Except Refusal Command := do
  let a ← Arguments.ofList ⟨[], indexOptions⟩ arguments
  let index ← indexOf a
  match ← given a "input" path? with
  | some input => return .build input index
  | none => .error .usage

/-- The arguments of a query. -/
def ofQuery (arguments : List String) : Except Refusal Command := do
  let own : List OptionRule :=
    [valued "model" model?, valued "k" count?, valued "pseudo-feedback" count?]
  let a ← Arguments.ofList ⟨[fun _ => true], own ++ indexOptions ++ ratingOptions⟩ arguments
  let text ← operand a 0 some
  let model ← given a "model" model?
  let limit ← given a "k" count?
  let pseudoFeedback ← given a "pseudo-feedback" count?
  return .query text (model.getD .extendedBoolean) (limit.getD defaultLimit) pseudoFeedback
    (← indexOf a) (← given a "input" path?) (← ratingsOf a)

/-- The arguments of a rating. -/
def ofRate (arguments : List String) : Except Refusal Command := do
  let operands := [reads documentId?, reads Decimal.ofText?]
  let a ← Arguments.ofList ⟨operands, indexOptions ++ ratingOptions⟩ arguments
  let id ← operand a 0 documentId?
  let rating ← operand a 1 Decimal.ofText?
  return .rate id rating (← indexOf a) (← given a "input" path?) (← ratingsOf a)

/-- The arguments of recommendations. -/
def ofRecommend (arguments : List String) : Except Refusal Command := do
  let a ← Arguments.ofList ⟨[], [valued "k" count?] ++ indexOptions ++ ratingOptions⟩ arguments
  let limit ← given a "k" count?
  return .recommend (limit.getD defaultRecommendations) (← indexOf a) (← given a "input" path?)
    (← ratingsOf a)

/-- The names of the commands. -/
def names : List String := ["build", "query", "rate", "recommend", "help"]

/-- Why the command `help` ends without another one: it gives help, on one command if named. -/
def refusalOfHelp : List String → Refusal
  | [] => .help
  | [name] => if names.contains name then .help else .usage
  | _ => .usage

/-- The command that arguments ask for. -/
def ofArguments : List String → Except Refusal Command
  | [] => .error .usage
  | name :: arguments =>
    if name = "build" then ofBuild arguments
    else if name = "query" then ofQuery arguments
    else if name = "rate" then ofRate arguments
    else if name = "recommend" then ofRecommend arguments
    else if name = "help" then .error (refusalOfHelp arguments)
    else if (formOf name).asksForHelp then .error .help
    else .error .usage

end Command

end DocSearch
