import Mathlib.Logic.Relation
import Rostering.Proofs.Sql.Reading
import Rostering.Proofs.Text.Occurrences

namespace Rostering.Sql

open Query (Direction)
open Roster (Catalogue)

def readOrder (d : Dialect) (text : List Char) : Option (List ((String × String) × Direction)) :=
  (lex d text).bind fun ts => (items ts).mapM sortKey?

theorem readOrder_renderOrder (d : Dialect) (catalogue : Catalogue) (sort : List String)
    (direction : Direction) :
    readOrder d (renderOrder d catalogue sort direction).toList =
      some ((orderFields catalogue sort).map fun field =>
        ((viewName catalogue.resource, field), direction)) := by
  have hlex := lex_spell d
    (spaced_orderTokens catalogue.resource (orderFields catalogue sort) direction)
  rw [readOrder, renderOrder, spelled, String.toList_ofList, hlex, Option.bind_some,
    items_orderTokens]

structure SortedBy (catalogue : Catalogue) (sort fields : List String) : Prop where
  nonempty : fields ≠ []
  nodup : fields.Nodup
  mem_iff : ∀ field, field ∈ fields ↔ field ∈ sort ∧ field ∈ catalogue.selectable ∨
    (∀ name ∈ sort, name ∉ catalogue.selectable) ∧ field = catalogue.defaultSort
  ordered : fields.Pairwise fun field later => sort.idxOf field < sort.idxOf later

theorem orderFields_eq (catalogue : Catalogue) (sort : List String) :
    orderFields catalogue sort =
      if ∀ name ∈ sort, name ∉ catalogue.selectable then [catalogue.defaultSort]
      else (Text.firstOccurrences sort).filter (· ∈ catalogue.selectable) := by
  rw [orderFields, Text.firstOccurrences_filter]
  by_cases hnone : ∀ name ∈ sort, name ∉ catalogue.selectable
  · have hnil : (Text.firstOccurrences sort).filter (· ∈ catalogue.selectable) = [] := by
      simpa [List.filter_eq_nil_iff, Text.mem_firstOccurrences] using hnone
    rw [if_pos hnone, hnil]
  · have hsome : (Text.firstOccurrences sort).filter (· ∈ catalogue.selectable) ≠ [] := by
      simpa [List.filter_eq_nil_iff, Text.mem_firstOccurrences] using hnone
    rw [if_neg hnone]
    split
    · contradiction
    · rfl

theorem sortedBy_orderFields (catalogue : Catalogue) (sort : List String) :
    SortedBy catalogue sort (orderFields catalogue sort) := by
  by_cases hnone : ∀ name ∈ sort, name ∉ catalogue.selectable
  · rw [orderFields_eq, if_pos hnone]
    refine ⟨by simp, by simp, fun field => ?_, List.pairwise_singleton _ _⟩
    rw [List.mem_singleton]
    constructor
    · exact fun hfield => .inr ⟨hnone, hfield⟩
    · rintro (⟨hasked, hselectable⟩ | ⟨-, hfield⟩)
      · exact absurd hselectable (hnone field hasked)
      · exact hfield
  · rw [orderFields_eq, if_neg hnone]
    have honce := Text.onceInOrder_firstOccurrences sort
    refine ⟨?_, honce.nodup.filter _, fun field => ?_, honce.ordered.filter _⟩
    · simpa [List.filter_eq_nil_iff, Text.mem_firstOccurrences] using hnone
    · simp [honce.mem_iff, hnone]

inductive Noise (selectable : List String) : List String → List String → Prop where
  | unknown (before after : List String) (name : String) (h : name ∉ selectable) :
      Noise selectable (before ++ after) (before ++ name :: after)
  | repeated (before after : List String) (name : String) (h : name ∈ before) :
      Noise selectable (before ++ after) (before ++ name :: after)

theorem Noise.orderFields_eq {catalogue : Catalogue} {sort noisy : List String}
    (h : Noise catalogue.selectable sort noisy) :
    orderFields catalogue noisy = orderFields catalogue sort := by
  have hsame : Text.firstOccurrences (noisy.filter (· ∈ catalogue.selectable)) =
      Text.firstOccurrences (sort.filter (· ∈ catalogue.selectable)) := by
    cases h with
    | unknown before after name hunknown => simp [hunknown]
    | repeated before after name hrepeated =>
        rw [Text.firstOccurrences_filter, Text.firstOccurrences_repeated hrepeated,
          Text.firstOccurrences_filter]
  rw [orderFields, orderFields, hsame]

theorem orderFields_of_noise {catalogue : Catalogue} {sort noisy : List String}
    (h : Relation.ReflTransGen (Noise catalogue.selectable) sort noisy) :
    orderFields catalogue noisy = orderFields catalogue sort := by
  induction h with
  | refl => rfl
  | tail _ hstep ih => rw [hstep.orderFields_eq, ih]

theorem order_wellFormed (d : Dialect) (catalogue : Catalogue) (sort : List String)
    (direction : Direction) :
    (∃ fields, readOrder d (renderOrder d catalogue sort direction).toList =
        some (fields.map fun field => ((viewName catalogue.resource, field), direction)) ∧
      SortedBy catalogue sort fields) ∧
    ∀ noisy, Relation.ReflTransGen (Noise catalogue.selectable) sort noisy →
      renderOrder d catalogue noisy direction = renderOrder d catalogue sort direction := by
  refine ⟨⟨_, readOrder_renderOrder d catalogue sort direction, ?_⟩, ?_⟩
  · exact sortedBy_orderFields catalogue sort
  · intro noisy hnoise
    rw [renderOrder, renderOrder, orderFields_of_noise hnoise]

theorem order_of_noisy_orgs :
    let catalogue := Roster.orgsCatalogue
    let noisy := ["bogus", "type", "type", "name", "type", "name desc"]
    Relation.ReflTransGen (Noise catalogue.selectable) ["type", "name"] noisy ∧
      renderOrder .tsql catalogue noisy .descending =
        renderOrder .tsql catalogue ["type", "name"] .descending := by
  intro catalogue noisy
  have hnoise : Relation.ReflTransGen (Noise catalogue.selectable) ["type", "name"] noisy := by
    refine .head (.unknown [] ["type", "name"] "bogus" (by decide)) ?_
    refine .head (.repeated ["bogus", "type"] ["name"] "type" (by decide)) ?_
    refine .head (.repeated ["bogus", "type", "type", "name"] [] "type" (by decide)) ?_
    exact .single (.unknown ["bogus", "type", "type", "name", "type"] [] "name desc" (by decide))
  exact ⟨hnoise, (order_wellFormed .tsql catalogue ["type", "name"] .descending).2 noisy hnoise⟩

end Rostering.Sql
