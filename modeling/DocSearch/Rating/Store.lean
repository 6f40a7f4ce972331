import DocSearch.Error
import DocSearch.Rating.Ratings

/-!
# Rating stores

A rating store keeps the ratings of several spaces, typically one for each corpus, under their
names.
-/

namespace DocSearch

/-- Where ratings can be kept. -/
class RatingStore (σ : Type) (α : outParam Type) where
  /-- The ratings saved under a name, none if nothing was saved. -/
  load : σ → String → Except Error (Ratings α)
  /-- Replaces the ratings of a name; on failure the store may have changed too. -/
  save : σ → String → Ratings α → Except Error Unit × σ

/-- A store that keeps the ratings in memory. -/
structure MemoryRatings (α : Type) where
  /-- The ratings of each name. -/
  spaces : Std.ExtTreeMap String (Ratings α) := ∅
  /-- If given, nothing is saved and this is the reason. -/
  refusal : Option Error := none

instance {α : Type} : RatingStore (MemoryRatings α) α where
  load m space := .ok (m.spaces.getD space ∅)
  save m space r :=
    match m.refusal with
    | some e => (.error e, m)
    | none => (.ok (), { m with spaces := m.spaces.insert space r })

end DocSearch
