import DocSearch.Unicode.Category
import DocSearch.Unicode.Lowercase
import DocSearch.Unicode.Normalization

/-!
# Words of a text

Text is normalized before anything else is done with it: form KC, then lowercase. Its words are
the longest runs of letters and numbers; all other characters separate.
-/

namespace DocSearch.Text

/-- The normal form of a text: form KC in lowercase. -/
def normalize (text : String) : String :=
  Unicode.lowercase (Unicode.nfkc text)

/-- The longest runs of characters with property `p`, where the reversed list `run` has been read
of the first. -/
def runsFrom (p : Char → Bool) (run : List Char) : List Char → List String
  | [] => if run.isEmpty then [] else [String.ofList run.reverse]
  | c :: cs =>
    if p c then runsFrom p (c :: run) cs
    else if run.isEmpty then runsFrom p [] cs
    else String.ofList run.reverse :: runsFrom p [] cs

/-- The longest runs of characters with property `p`, in order. -/
def runs (p : Char → Bool) (text : String) : List String :=
  runsFrom p [] text.toList

/-- The character belongs to a word. -/
def isWordChar (c : Char) : Bool :=
  Unicode.isLetter c || Unicode.isNumber c

/-- The words of a text, normalized and in order. -/
def words (text : String) : List String :=
  runs isWordChar (normalize text)

end DocSearch.Text
