import Rostering.Proofs.Query.RoundTrip
import Rostering.Proofs.Sql.Binding

namespace Rostering

namespace Query

def Clause.identifying (id : String) : Clause := ⟨"sourcedId", .eq, id⟩

def Request.identifying (id : String) : Request :=
  { usual with filter := "sourcedId='" ++ id ++ "'", limit := 1 }

-- The value may hold any other operator: the equals sign is tried before those, and the longer ones
-- that are tried first have an equals sign of their own.
theorem Clause.parse_identifying {id : String} (h : '=' ∉ id.toList) :
    Clause.parse (identifying id).chars = .ok (identifying id) := by
  have hfield : ∀ x ∈ "sourcedId".toList, isOperatorChar x = false := by
    simp [isOperatorChar]
  have hmeet (other : Operator) : other.bridges "sourcedId".toList Operator.eq.token.toList = 0 :=
    Operator.bridges_eq_zero_of_last (by simp [joinsEquals]) _
  have hcount {other : Operator} (hother : '=' ∈ other.token.toList) :
      other.count (identifying id).chars = other.count Operator.eq.token.toList := by
    have hparts := (identifying id).count_chars other
    simp only [identifying] at hparts ⊢
    rw [hparts, Operator.count_eq_zero hfield, Operator.count_eq_zero_of_not_mem hother h, hmeet]
    omega
  have hearlier : ∀ other ∈ Operator.eq.earlier, '=' ∈ other.token.toList := by decide
  have htrim : Text.trim "sourcedId".toList = "sourcedId".toList := by decide
  refine Clause.parse_chars_of_cut (c := identifying id) htrim (by simp [identifying]) ⟨rfl, ?_, ?_⟩
  · have hown : '=' ∈ Operator.eq.token.toList := by decide
    exact (hcount hown).trans (Operator.count_token .eq)
  · intro other hother
    have hzero : other.count Operator.eq.token.toList = 0 := Operator.count_earlier_token hother
    rw [hcount (hearlier other hother), hzero]
    decide

theorem Filter.parse_identifying {id : String} (h : '=' ∉ id.toList)
    (hfree : ∀ connective : Connective, ¬ connective.token <:+: id.toList) :
    Filter.parse (Request.identifying id).filter = .ok (.single (.identifying id)) := by
  have htext : (Filter.single (.identifying id)).text = (Request.identifying id).filter := by
    rw [Filter.text, Filter.chars, ← String.toList_inj]
    simp [Filter.single, Clause.identifying, Clause.chars, Operator.token, List.intercalate,
      Request.identifying]
  have hchars (connective : Connective) :
      ¬ connective.token <:+: (Clause.identifying id).chars := by
    have hfield : ¬ connective.token <:+: "sourcedId".toList := by cases connective <;> decide
    exact Clause.not_infix_chars_of_parts hfield (hfree connective)
  have hclear : ¬ (Clause.identifying id).Blurred := by
    rintro ⟨-, x, hlast, hx⟩
    obtain rfl : 'd' = x := by simpa [Clause.identifying] using hlast
    exact absurd hx (by decide)
  have hlegible : (Filter.single (.identifying id)).Legible := by
    constructor
    · simpa [Filter.single] using hclear
    · simp [Filter.single]
  rw [← htext, Filter.parse_text_of_clauses (by simp [Filter.single]) (by simp [Filter.single])]
  · exact hlegible
  · intro c hc
    obtain rfl := List.mem_singleton.mp hc
    exact ⟨_, Clause.parse_identifying h, hchars⟩

theorem Filter.check_identifying (endpoint : Roster.Endpoint) (id : String) :
    (Filter.single (.identifying id)).check endpoint.catalogue =
      .ok (Sql.Select.ofId endpoint id).comparisons := by
  have hfield : "sourcedId" ∈ endpoint.catalogue.filterable := by cases endpoint <;> decide
  have hkind : endpoint.catalogue.kindOf "sourcedId" = .text := by cases endpoint <;> decide
  have hcheck : (Clause.identifying id).check endpoint.catalogue =
      .ok ⟨"sourcedId", .text, .eq, id⟩ := by
    simp [Clause.check, Clause.identifying, hfield, hkind, Roster.FieldKind.normalize]
  exact mapM_eq_ok_of_forall₂ (.cons hcheck .nil)

end Query

namespace Sql

open Query (Clause Connective Filter Request)
open Roster (Endpoint)

theorem renderMany_identifying (d : Dialect) (schema : String) (endpoint : Endpoint) {id : String}
    (h : '=' ∉ id.toList)
    (hfree : ∀ connective : Connective, ¬ connective.token <:+: id.toList) :
    renderMany d schema endpoint (.identifying id) = .ok (renderOne d schema endpoint id) := by
  have hfields : (Request.identifying id).selection.resolve endpoint.catalogue.selectable =
      .ok endpoint.catalogue.selectable := rfl
  rw [renderMany_of_checks d schema (Filter.parse_identifying h hfree) hfields
    (Filter.check_identifying endpoint id)]
  rfl

theorem statement_renderLookup (d : Dialect) (schema : String) (endpoint : Endpoint)
    (id : String) :
    (renderLookup d schema endpoint id).statement d = .ok (renderOne d schema endpoint id) := by
  have hrender : (renderLookup d schema endpoint id).onto .empty =
      (.ok ((Select.ofId endpoint id).tokens d schema), ⟨(Select.ofId endpoint id).params d⟩) :=
    onto_renderSelect_of_checks d schema { Request.usual with limit := 1 }
      endpoint.catalogue.selectable (Filter.check_identifying endpoint id)
  unfold Rendering.statement
  rw [hrender]
  rfl

theorem lookup_as_listing (d : Dialect) (schema : String) (endpoint : Endpoint) :
    (∀ id : String, '=' ∉ id.toList →
      (∀ connective : Connective, ¬ connective.token <:+: id.toList) →
      renderMany d schema endpoint (.identifying id) = .ok (renderOne d schema endpoint id)) ∧
    ∀ id : String,
      (renderLookup d schema endpoint id).statement d = .ok (renderOne d schema endpoint id) ∧
      (renderOne d schema endpoint id).params.head? = some (.text id) :=
  ⟨fun _ => renderMany_identifying d schema endpoint,
    fun id => ⟨statement_renderLookup d schema endpoint id, rfl⟩⟩

theorem lookup_of_operators :
    let id := "' <~!>\"; AND--\u00a0OR "
    '=' ∉ id.toList ∧ (∀ connective : Connective, ¬ connective.token <:+: id.toList) ∧
      renderMany .tsql "oneroster12" .teachers (.identifying id) =
        .ok (renderOne .tsql "oneroster12" .teachers id) := by
  intro id
  have hequals : '=' ∉ id.toList := by decide
  have hfree : ∀ connective : Connective, ¬ connective.token <:+: id.toList := by
    intro connective
    cases connective <;> decide
  exact ⟨hequals, hfree, (lookup_as_listing .tsql "oneroster12" .teachers).1 id hequals hfree⟩

end Sql
end Rostering
