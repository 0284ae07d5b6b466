import Mathlib.Data.List.Induction
import Rostering.Query.Request

namespace Rostering.Query

def lastValue? (name : String) (pairs : List (String × String)) : Option String :=
  (pairs.reverse.find? (fun pair => pair.1 = name)).map (·.2)

theorem lastValue?_concat (name : String) (pairs : List (String × String))
    (pair : String × String) : lastValue? name (pairs ++ [pair]) =
      if pair.1 = name then some pair.2 else lastValue? name pairs := by
  simp only [lastValue?, List.reverse_append, List.reverse_singleton, List.singleton_append,
    List.find?_cons]
  by_cases h : pair.1 = name <;> simp [h]

def lastNumber? (name : String) (query : String) : Option Nat :=
  (lastValue? name (Text.formPairs query)).bind fun value => Text.u64? (Text.trim value.toList)

namespace Request

theorem foldl_withParameter (limits : PageLimits) (start : Request)
    (pairs : List (String × String)) :
    pairs.foldl (fun request pair => request.withParameter limits pair.1 pair.2) start = {
      limit := ((lastValue? "limit" pairs).map (readLimit limits.default)).getD start.limit
      offset := ((lastValue? "offset" pairs).map readOffset).getD start.offset
      sort := ((lastValue? "sort" pairs).map Text.commaList).getD start.sort
      direction := ((lastValue? "orderBy" pairs).map Direction.parse).getD start.direction
      selection := ((lastValue? "fields" pairs).map Selection.parse).getD start.selection
      filter := (lastValue? "filter" pairs).getD start.filter } := by
  -- From the end of the list, since the last pair is the one that counts.
  induction pairs using List.reverseRecOn with
  | nil => rfl
  | append_singleton pairs pair ih =>
      obtain ⟨name, value⟩ := pair
      rw [List.foldl_append, ih, List.foldl_cons, List.foldl_nil]
      simp only [lastValue?_concat, withParameter]
      split <;> simp_all

theorem readLimit_eq (default : Nat) (value : String) :
    readLimit default value =
      ((Text.u64? (Text.trim value.toList)).filter (0 < ·)).getD default := by
  unfold readLimit
  cases Text.u64? (Text.trim value.toList) with
  | none => rfl
  | some n => cases n <;> rfl

def uncapped (limits : PageLimits) (query : String) : Nat :=
  ((lastNumber? "limit" query).filter (0 < ·)).getD limits.default

theorem ofQuery_eq (limits : PageLimits) (query : String) :
    ofQuery limits query = {
      limit := limits.max.elim (uncapped limits query) (min (uncapped limits query))
      offset := (lastNumber? "offset" query).getD 0
      sort := ((lastValue? "sort" (Text.formPairs query)).map Text.commaList).getD []
      direction :=
        ((lastValue? "orderBy" (Text.formPairs query)).map Direction.parse).getD .ascending
      selection :=
        ((lastValue? "fields" (Text.formPairs query)).map Selection.parse).getD .everything
      filter := (lastValue? "filter" (Text.formPairs query)).getD "" } := by
  have hlimit : ((lastValue? "limit" (Text.formPairs query)).map
      (readLimit limits.default)).getD limits.default = uncapped limits query := by
    unfold uncapped lastNumber?
    cases lastValue? "limit" (Text.formPairs query) with
    | none => rfl
    | some value => exact readLimit_eq limits.default value
  have hoffset : ((lastValue? "offset" (Text.formPairs query)).map readOffset).getD usual.offset =
      (lastNumber? "offset" query).getD 0 := by
    unfold lastNumber?
    cases lastValue? "offset" (Text.formPairs query) <;> rfl
  rw [ofQuery, foldl_withParameter, hlimit, hoffset]
  cases limits.max <;> rfl

theorem selection_ofQuery (limits : PageLimits) (query : String) :
    (ofQuery limits query).selection =
      ((lastValue? "fields" (Text.formPairs query)).map Selection.parse).getD .everything := by
  rw [ofQuery_eq]

theorem limit_ofQuery (limits : PageLimits) (query : String) :
    (ofQuery limits query).limit =
      limits.max.elim (uncapped limits query) (min (uncapped limits query)) := by
  rw [ofQuery_eq]

theorem offset_ofQuery (limits : PageLimits) (query : String) :
    (ofQuery limits query).offset = (lastNumber? "offset" query).getD 0 := by
  rw [ofQuery_eq]

end Request
end Rostering.Query
