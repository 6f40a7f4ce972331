import DocSearch.Unicode.Case

/-!
# Lowercase text

Lowercasing goes character by character, with one exception that looks at the neighbourhood: a
capital sigma at the end of a word becomes the final form. The end of a word is judged by the case
context: going away from the sigma and passing over the case-ignorable characters, a cased one is
met before it and none behind it.
-/

namespace DocSearch.Unicode

/-- The first character that is not case-ignorable is cased. -/
def startsCased (cs : List Char) : Bool :=
  match cs.dropWhile isCaseIgnorable with
  | c :: _ => isCased c
  | [] => false

/-- The lowercase of a sigma between the reversed text `before` and the text `after`. -/
def lowercaseSigma (before after : List Char) : Char :=
  if startsCased before && !startsCased after then 'ς' else 'σ'

/-- The lowercase of the rest of a text that began with the reversed text `before`. -/
def lowercaseFrom (before : List Char) : List Char → List Char
  | [] => []
  | c :: cs =>
    if c = 'Σ' then lowercaseSigma before cs :: lowercaseFrom (c :: before) cs
    else lowercaseOf c ++ lowercaseFrom (c :: before) cs

/-- The lowercase of a text. -/
def lowercase (text : String) : String :=
  String.ofList (lowercaseFrom [] text.toList)

end DocSearch.Unicode
