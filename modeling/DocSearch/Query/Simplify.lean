import DocSearch.Query.Dnf

/-!
# Simplification

A list of conjunctions is reduced to those that no other one absorbs. Taken by length, a
conjunction can only be absorbed by one that comes before it. If none is left the query cannot be
satisfied; if some are left and they hold under every assignment, every document satisfies it. The
latter is decided by trying all assignments and only for few tokens.
-/

namespace DocSearch.Query

/-- The largest number of tokens for which all assignments are tried. -/
def maxTautologyTokens : Nat := 12

/-- Shorter conjunctions come first, those of one length in their order. -/
def compareByLength (c d : Conjunction) : Ordering :=
  (compare c.literals.length d.literals.length).then (compare c d)

/-- The conjunctions that are not absorbed by an earlier one that is kept. The reversed list `kept`
holds those kept so far. -/
def absorbFrom (kept : List Conjunction) : List Conjunction → List Conjunction
  | [] => kept.reverse
  | c :: cs => if kept.any (·.absorbs c) then absorbFrom kept cs else absorbFrom (c :: kept) cs

/-- The conjunctions of a list, normal and ordered by length, that no other one absorbs. -/
def minimal (cs : List Conjunction) : List Conjunction :=
  absorbFrom [] <|
    (cs.filterMap fun c => Conjunction.ofLiterals? c.literals).mergeSort
      fun c d => (compareByLength c d).isLE

/-- Under every assignment that agrees with `a` outside the given tokens, some conjunction holds. -/
def coversFrom (cs : List Conjunction) (a : Assignment) : List String → Bool
  | [] => cs.any (·.eval a)
  | t :: ts =>
    coversFrom cs (fun s => if s = t then false else a s) ts &&
      coversFrom cs (fun s => if s = t then true else a s) ts

/-- Some conjunction holds under every assignment; always denied if there are no tokens or more
than `maxTautologyTokens`. -/
def isTautology (cs : List Conjunction) : Bool :=
  let ts := (Dnf.clauses cs).tokens
  !ts.isEmpty && ts.length ≤ maxTautologyTokens && coversFrom cs (fun _ => false) ts

/-- The normal form of a disjunction of conjunctions. -/
def simplify (cs : List Conjunction) : Dnf :=
  match minimal cs with
  | [] => .never
  | kept =>
    if isTautology kept then .always
    else .clauses (kept.mergeSort fun c d => (compare c d).isLE)

end DocSearch.Query
