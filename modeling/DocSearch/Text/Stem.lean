/-!
# English stems

A word is reduced to its stem by stripping suffixes in five steps, in the manner of the second
English Porter algorithm. Inside the algorithm a word is the list of its letters *from the last to
the first*, so that a suffix is an initial piece. A `y` at the start of a word or behind a vowel
is a consonant and is written `Y` while the steps run.

Most steps act only inside a region of the word. The first region begins behind the first
consonant that follows a vowel, the second one is found the same way inside the first. A suffix
lies in a region if what precedes it is at least as long as what precedes the region. Each step
looks at the longest of its suffixes that the word has and does nothing else if its rule does not
apply.
-/

namespace DocSearch.Text.Stem

/-- The letters of a suffix or word, last one first. -/
def backward (s : String) : List Char := s.toList.reverse

/-- The letter is a vowel, `y` included. -/
def isVowel (c : Char) : Bool :=
  c = 'a' || c = 'e' || c = 'i' || c = 'o' || c = 'u' || c = 'y'

/-- Writes consonantal `y` as `Y`, in reading order. The flag says whether a `y` in front counts as
a consonant: it does at the start of the word and behind a vowel. -/
def markY (consonantal : Bool) : List Char → List Char
  | [] => []
  | c :: cs =>
    if c = 'y' ∧ consonantal then 'Y' :: markY false cs else c :: markY (isVowel c) cs

/-- How many letters, in reading order, lead past the first consonant that follows a vowel. -/
def pastVowelConsonant? (cs : List Char) : Option Nat :=
  match cs.dropWhile (!isVowel ·) with
  | [] => none
  | vowels =>
    match vowels.dropWhile isVowel with
    | [] => none
    | _ :: rest => some (cs.length - rest.length)

/-- Where the two regions of a word begin, as the number of letters in front of them. -/
structure Regions where
  /-- The start of the first region. -/
  first : Nat
  /-- The start of the second region. -/
  second : Nat
deriving Repr

/-- Beginnings that lie in front of the first region as a whole. -/
def unbrokenStarts : List String := ["gener", "commun", "arsen"]

/-- The regions of a word given in reading order. A region that is not there begins at the end. -/
def Regions.ofWord (cs : List Char) : Regions :=
  let start? :=
    match unbrokenStarts.find? fun s => s.toList.isPrefixOf cs with
    | some s => some s.toList.length
    | none => pastVowelConsonant? cs
  match start? with
  | none => ⟨cs.length, cs.length⟩
  | some n =>
    match pastVowelConsonant? (cs.drop n) with
    | none => ⟨n, cs.length⟩
    | some k => ⟨n, n + k⟩

/-- The word ends in a short syllable: a vowel between two consonants of which the last is not
`w`, `x` or `Y`, or a word of a vowel and a consonant. -/
def endsShort : List Char → Bool
  | c :: v :: d :: _ =>
    !isVowel c && c ≠ 'w' && c ≠ 'x' && c ≠ 'Y' && isVowel v && !isVowel d
  | [c, v] => !isVowel c && isVowel v
  | _ => false

/-- A suffix, what replaces it, and a condition on the letters in front of it. -/
structure Rule where
  /-- The suffix, in reading order. -/
  suffix : String
  /-- What is written in its place. -/
  replacement : String
  /-- What the word without the suffix has to satisfy. -/
  condition : List Char → Bool := fun _ => true

/-- The first rule of a list whose suffix the word has, with the word without the suffix. The lists
below are ordered by falling length of the suffix, so the rule found has the longest. -/
def longest? (rules : List Rule) (w : List Char) : Option (Rule × List Char) :=
  rules.findSome? fun r => ((backward r.suffix).isPrefixOf? w).map (r, ·)

/-- Applies the rule with the longest suffix, if the suffix lies behind `start` letters. -/
def applyRules (rules : List Rule) (start : Nat) (w : List Char) : List Char :=
  match longest? rules w with
  | some (r, rest) =>
    if start ≤ rest.length && r.condition rest then backward r.replacement ++ rest else w
  | none => w

/-- The word without its last letters, if they are the given suffix. -/
def without? (suffix : String) (w : List Char) : Option (List Char) :=
  (backward suffix).isPrefixOf? w

/-- Drops the ending of a possessive. -/
def dropPossessive (w : List Char) : List Char :=
  (["'s'", "'s", "'"].findSome? fun s => without? s w).getD w

/-- First step, plurals: `caresses`, `ties`, `cries`, `gaps`. -/
def stepPlural (w : List Char) : List Char :=
  match w with
  | 's' :: 'e' :: 's' :: 's' :: rest => 's' :: 's' :: rest
  | 'd' :: 'e' :: 'i' :: rest | 's' :: 'e' :: 'i' :: rest =>
    if 2 ≤ rest.length then 'i' :: rest else 'e' :: 'i' :: rest
  | 's' :: 'u' :: _ | 's' :: 's' :: _ => w
  | 's' :: rest => if (rest.drop 1).any isVowel then rest else w
  | _ => w

/-- Letters that are doubled in front of `ed` and `ing`. -/
def undoubled : List Char := ['b', 'd', 'f', 'g', 'm', 'n', 'p', 'r', 't']

/-- Mends a stem that has lost `ed` or `ing`: `luxuriat` gets its `e` back, `hopp` loses a `p`, and
so does a short word such as `hop` get an `e`. -/
def mend (g : Regions) (w : List Char) : List Char :=
  match w with
  | 't' :: 'a' :: _ | 'l' :: 'b' :: _ | 'z' :: 'i' :: _ => 'e' :: w
  | c :: d :: _ =>
    if c = d ∧ c ∈ undoubled then w.drop 1
    else if w.length = g.first && endsShort w then 'e' :: w
    else w
  | _ => w

/-- Second part of the first step, past forms: `agreed`, `plastered`, `hoping`. -/
def stepPast (g : Regions) (w : List Char) : List Char :=
  let rules : List Rule :=
    ["eedly", "ingly", "edly", "eed", "ing", "ed"].map fun s => { suffix := s, replacement := "" }
  match longest? rules w with
  | some (r, rest) =>
    if r.suffix = "eedly" ∨ r.suffix = "eed" then
      if g.first ≤ rest.length then 'e' :: 'e' :: rest else w
    else if rest.any isVowel then mend g rest
    else w
  | none => w

/-- Third part of the first step: a final `y` behind a consonant that does not begin the word
becomes `i`. -/
def stepY : List Char → List Char
  | c :: d :: e :: rest =>
    if (c = 'y' ∨ c = 'Y') ∧ isVowel d = false then 'i' :: d :: e :: rest else c :: d :: e :: rest
  | w => w

/-- The letters that may stand in front of a suffix `li`. -/
def beforeLi : List Char := ['c', 'd', 'e', 'g', 'h', 'k', 'm', 'n', 'r', 't']

/-- The word ends in one of the letters. -/
def endsIn (letters : List Char) : List Char → Bool
  | c :: _ => letters.contains c
  | [] => false

/-- Second step: derivational suffixes are shortened. -/
def derivationRules : List Rule :=
  [{ suffix := "ational", replacement := "ate" }, { suffix := "fulness", replacement := "ful" },
   { suffix := "iveness", replacement := "ive" }, { suffix := "ization", replacement := "ize" },
   { suffix := "ousness", replacement := "ous" }, { suffix := "biliti", replacement := "ble" },
   { suffix := "lessli", replacement := "less" }, { suffix := "tional", replacement := "tion" },
   { suffix := "alism", replacement := "al" }, { suffix := "aliti", replacement := "al" },
   { suffix := "ation", replacement := "ate" }, { suffix := "entli", replacement := "ent" },
   { suffix := "fulli", replacement := "ful" }, { suffix := "iviti", replacement := "ive" },
   { suffix := "ousli", replacement := "ous" }, { suffix := "abli", replacement := "able" },
   { suffix := "alli", replacement := "al" }, { suffix := "anci", replacement := "ance" },
   { suffix := "ator", replacement := "ate" }, { suffix := "enci", replacement := "ence" },
   { suffix := "izer", replacement := "ize" }, { suffix := "bli", replacement := "ble" },
   { suffix := "ogi", replacement := "og", condition := endsIn ['l'] },
   { suffix := "li", replacement := "", condition := endsIn beforeLi }]

/-- Third step: more derivational suffixes; `ative` has to lie in the second region. -/
def adjectiveRules (g : Regions) : List Rule :=
  [{ suffix := "ational", replacement := "ate" }, { suffix := "tional", replacement := "tion" },
   { suffix := "alize", replacement := "al" }, { suffix := "icate", replacement := "ic" },
   { suffix := "iciti", replacement := "ic" },
   { suffix := "ative", replacement := "", condition := fun rest => g.second ≤ rest.length },
   { suffix := "ical", replacement := "ic" }, { suffix := "ness", replacement := "" },
   { suffix := "ful", replacement := "" }]

/-- Fourth step: the suffixes that are dropped inside the second region. -/
def droppedRules : List Rule :=
  (["ement", "able", "ance", "ence", "ible", "ment", "ant", "ate", "ent"].map fun s =>
    { suffix := s, replacement := "" }) ++
  [{ suffix := "ion", replacement := "", condition := endsIn ['s', 't'] }] ++
  (["ism", "iti", "ive", "ize", "ous", "al", "er", "ic"].map fun s =>
    { suffix := s, replacement := "" })

/-- Fifth step: a final `e`, and the second of two final `l`. -/
def stepFinal (g : Regions) (w : List Char) : List Char :=
  match w with
  | 'e' :: rest =>
    if g.second ≤ rest.length || (g.first ≤ rest.length && !endsShort rest) then rest else w
  | 'l' :: rest => if g.second ≤ rest.length && endsIn ['l'] rest then rest else w
  | _ => w

/-- Words whose stem is not found by rule. -/
def irregular : List (String × String) :=
  [("skis", "ski"), ("skies", "sky"), ("dying", "die"), ("lying", "lie"), ("tying", "tie"),
   ("idly", "idl"), ("gently", "gentl"), ("ugly", "ugli"), ("early", "earli"), ("only", "onli"),
   ("singly", "singl"), ("sky", "sky"), ("news", "news"), ("howe", "howe"), ("atlas", "atlas"),
   ("cosmos", "cosmos"), ("bias", "bias"), ("andes", "andes")]

/-- Words that keep their form once plurals are dealt with. -/
def settled : List String :=
  ["inning", "outing", "canning", "herring", "earring", "proceed", "exceed", "succeed"]

/-- The steps after the plurals. -/
def reduce (g : Regions) (w : List Char) : List Char :=
  if settled.any (backward · = w) then w
  else
    stepFinal g <| applyRules droppedRules g.second <| applyRules (adjectiveRules g) g.first <|
      applyRules derivationRules g.first <| stepY <| stepPast g w

/-- The stem of a word of at least three letters by rule. -/
def regular (word : List Char) : List Char :=
  let plain := if word.head? = some '\'' then word.drop 1 else word
  let marked := markY true plain
  let g := Regions.ofWord marked
  let stem := (reduce g (stepPlural (dropPossessive marked.reverse))).reverse
  if marked = plain then stem else stem.map fun c => if c = 'Y' then 'y' else c

end Stem

/-- The stem of an English word in lowercase. Words of fewer than three letters are their own. -/
def stem (word : String) : String :=
  match Stem.irregular.lookup word with
  | some s => s
  | none =>
    let letters := word.toList
    if letters.length < 3 then word else String.ofList (Stem.regular letters)

end DocSearch.Text
