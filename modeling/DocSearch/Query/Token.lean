import DocSearch.Text.Analyzer
import DocSearch.Unicode.Alphabetic
import DocSearch.Unicode.Blank

/-!
# Query tokens

A query is normalized like any text and then split at everything that is neither alphabetic nor a
number, with each parenthesis standing on its own. This keeps more characters than the words of a
text have: vowel signs, circled letters, and letters and numbers that are encoded later. The words
`and`, `or` and `not` are operators, other words are terms after stemming. Stopwords are kept, since
dropping one would leave an operator without its operand; words that are reserved are dropped.

Operands that follow each other without an operator are joined by `and`.
-/

namespace DocSearch.Query

/-- A token of a query. -/
inductive Token where
  /-- A term. -/
  | term (text : String)
  /-- The operator `and`. -/
  | and
  /-- The operator `or`. -/
  | or
  /-- The operator `not`. -/
  | not
  /-- An opening parenthesis. -/
  | opening
  /-- A closing parenthesis. -/
  | closing
deriving DecidableEq, Repr

namespace Token

/-- How a token is named in an error message. -/
def describe : Token → String
  | .term t => "term '" ++ t ++ "'"
  | .and => "'and'"
  | .or => "'or'"
  | .not => "'not'"
  | .opening => "'('"
  | .closing => "')'"

/-- An operand can end with the token. -/
def endsOperand : Token → Bool
  | .term _ => true
  | .closing => true
  | _ => false

/-- An operand can begin with the token. -/
def startsOperand : Token → Bool
  | .term _ => true
  | .opening => true
  | .not => true
  | _ => false

/-- What a character of the query contributes to the text that is split at blanks. -/
def spread (c : Char) : List Char :=
  if c = '(' ∨ c = ')' then [' ', c, ' ']
  else if Unicode.isAlphanumeric c || Unicode.isBlank c then [c]
  else [' ']

/-- The token of a word, unless the word is dropped. -/
def ofWord? (a : Analyzer) (reserved : List String) (word : String) : Option Token :=
  if word = "(" then some .opening
  else if word = ")" then some .closing
  else if word = "and" then some .and
  else if word = "or" then some .or
  else if word = "not" then some .not
  else
    let t := a.token word
    if reserved.contains t then none else some (.term t)

/-- The tokens of a query as it is written. -/
def scan (a : Analyzer) (reserved : List String) (query : String) : List Token :=
  let spaced := String.ofList ((Text.normalize query).toList.flatMap spread)
  (Text.runs (!Unicode.isBlank ·) spaced).filterMap (ofWord? a reserved)

/-- Puts an `and` in front of every operand that follows directly on another one, where `before`
says whether an operand ends in front of the list. -/
def joinFrom (before : Bool) : List Token → List Token
  | [] => []
  | t :: ts =>
    if before && t.startsOperand then .and :: t :: joinFrom t.endsOperand ts
    else t :: joinFrom t.endsOperand ts

/-- Puts an `and` between every two operands that follow each other directly. -/
def joinOperands (ts : List Token) : List Token :=
  joinFrom false ts

end Token

end DocSearch.Query
