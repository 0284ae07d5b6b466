import Rostering.Proofs.Query.Checking

namespace Rostering

open Query (Checked Clause Comparison Connective Direction Filter Request)
open Roster (Catalogue Endpoint Resource)
open Storage (Statement)

def Query.Comparison.blank (c : Comparison) : Comparison := { c with value := "" }

namespace Sql

def Select.blank (s : Select) : Select :=
  { s with comparisons := s.comparisons.map Comparison.blank, limit := 0, offset := 0 }

theorem conditionTokens_blank (d : Dialect) (resource : Resource) (connective : Connective)
    (position : Nat) (cs : List Comparison) :
    conditionTokens d resource connective position (cs.map Comparison.blank) =
      conditionTokens d resource connective position cs := by
  induction cs generalizing position with
  | nil => rfl
  | cons c cs ih =>
      have hfirst : comparisonTokens d resource c.blank position =
          comparisonTokens d resource c position := rfl
      cases cs with
      | nil => exact hfirst
      | cons next rest =>
          have hrest := ih (position + 1)
          simp only [List.map_cons] at hrest ⊢
          simp only [conditionTokens, hfirst, hrest]

namespace Select

theorem tokens_blank (d : Dialect) (schema : String) (s : Select) :
    s.blank.tokens d schema = s.tokens d schema := by
  have hwhere : s.blank.whereTokens d = s.whereTokens d := by
    simp [whereTokens, blank, conditionTokens_blank]
  have hcount : s.blank.allComparisons.length = s.allComparisons.length := by
    simp [allComparisons, blank]
  unfold tokens
  rw [hwhere, hcount]
  rfl

theorem length_params (d : Dialect) (s : Select) :
    (s.params d).length = s.comparisons.length + s.restriction.toList.length + 2 := by
  cases d <;> simp [params, allComparisons, pageBounds, Nat.add_assoc]

theorem getElem?_params (d : Dialect) (s : Select) {i : Nat} (hi : s.comparisons.length ≤ i)
    (hlast : i + 2 ≠ (s.params d).length) (hlast' : i + 1 ≠ (s.params d).length) :
    (s.params d)[i]? = (s.restriction.toList.map (boundOf d))[i - s.comparisons.length]? := by
  rw [length_params] at hlast hlast'
  have hbounds : (pageBounds d s.limit s.offset).length = 2 := by cases d <;> rfl
  rw [params, allComparisons, List.map_append, List.append_assoc,
    List.getElem?_append_right (by simpa using hi), List.length_map]
  by_cases hmid : i - s.comparisons.length < s.restriction.toList.length
  · rw [List.getElem?_append_left (by simpa using hmid)]
  · rw [List.getElem?_append_right (by simpa using hmid), List.length_map,
      List.getElem?_eq_none (by omega), List.getElem?_eq_none (by rw [List.length_map]; omega)]

theorem sql_eq_of_blank_eq {s₁ s₂ : Select} (h : s₁.blank = s₂.blank) (d : Dialect)
    (schema : String) : (s₁.statement d schema).sql = (s₂.statement d schema).sql := by
  simp only [statement]
  rw [← tokens_blank d schema s₁, h, tokens_blank]

theorem params_of_blank_eq {s₁ s₂ : Select} (h : s₁.blank = s₂.blank) (d : Dialect) :
    (s₁.params d).length = (s₂.params d).length ∧
      ∀ i, (s₁.params d)[i]? ≠ (s₂.params d)[i]? →
        i < s₁.comparisons.length ∨ i + 2 = (s₁.params d).length ∨
          i + 1 = (s₁.params d).length := by
  have hcount : s₁.comparisons.length = s₂.comparisons.length := by
    simpa [blank] using congrArg (fun s => s.comparisons.length) h
  have hfixed : s₁.restriction = s₂.restriction :=
    show s₁.blank.restriction = s₂.blank.restriction by rw [h]
  have hlength : (s₁.params d).length = (s₂.params d).length := by
    rw [length_params, length_params, hcount, hfixed]
  refine ⟨hlength, fun i hi => ?_⟩
  by_contra hout
  simp only [not_or, Nat.not_lt] at hout
  obtain ⟨hvalue, hlast, hlast'⟩ := hout
  apply hi
  rw [getElem?_params d s₁ hvalue hlast hlast',
    getElem?_params d s₂ (hcount ▸ hvalue) (hlength ▸ hlast) (hlength ▸ hlast'), hcount, hfixed]

end Select

theorem map_blank_of_checked {catalogue : Catalogue} {clauses : List Clause}
    {cs : List Comparison} (h : List.Forall₂ (Checked catalogue) clauses cs) :
    cs.map Comparison.blank = (clauses.map fun c => (c.field, c.operator)).map fun p =>
      ⟨p.1, catalogue.kindOf p.1, p.2, ""⟩ := by
  induction h with
  | nil => rfl
  | cons hc _ ih => simp [ih, Comparison.blank, hc.field, hc.kind, hc.operator]

theorem text_independent_of_values (d : Dialect) (schema : String) (endpoint : Endpoint) :
    (∀ (r₁ r₂ : Request) (st₁ st₂ : Statement) (f₁ f₂ : Filter) (fields : List String),
      renderMany d schema endpoint r₁ = .ok st₁ → renderMany d schema endpoint r₂ = .ok st₂ →
      Filter.parse r₁.filter = .ok f₁ → Filter.parse r₂.filter = .ok f₂ →
      f₁.connective = f₂.connective →
      f₁.clauses.map (fun c => (c.field, c.operator)) =
        f₂.clauses.map (fun c => (c.field, c.operator)) →
      r₁.selection.resolve endpoint.catalogue.selectable = .ok fields →
      r₂.selection.resolve endpoint.catalogue.selectable = .ok fields →
      r₁.sort = r₂.sort → r₁.direction = r₂.direction →
      st₁.sql = st₂.sql ∧ st₁.params.length = st₂.params.length ∧
        ∀ i, st₁.params[i]? ≠ st₂.params[i]? →
          i < f₁.clauses.length ∨ i + 2 = st₁.params.length ∨ i + 1 = st₁.params.length) ∧
    ∀ id₁ id₂, (renderOne d schema endpoint id₁).sql = (renderOne d schema endpoint id₂).sql := by
  constructor
  · intro r₁ r₂ st₁ st₂ f₁ f₂ fields h₁ h₂ hf₁ hf₂ hconn hclauses hsel₁ hsel₂ hsort hdir
    obtain ⟨s₁, hs₁, rfl⟩ := renderMany_eq_ok h₁
    obtain ⟨s₂, hs₂, rfl⟩ := renderMany_eq_ok h₂
    obtain ⟨g₁, fs₁, cs₁, hg₁, hfs₁, hcs₁, rfl⟩ := Select.ofRequest_eq_ok hs₁
    obtain ⟨g₂, fs₂, cs₂, hg₂, hfs₂, hcs₂, rfl⟩ := Select.ofRequest_eq_ok hs₂
    obtain rfl : f₁ = g₁ := Except.ok.inj (hf₁.symm.trans hg₁)
    obtain rfl : f₂ = g₂ := Except.ok.inj (hf₂.symm.trans hg₂)
    obtain rfl : fields = fs₁ := Except.ok.inj (hsel₁.symm.trans hfs₁)
    obtain rfl : fields = fs₂ := Except.ok.inj (hsel₂.symm.trans hfs₂)
    have hcs : cs₁.map Comparison.blank = cs₂.map Comparison.blank := by
      rw [map_blank_of_checked hcs₁, map_blank_of_checked hcs₂, hclauses]
    have hblank :
        (Select.assemble endpoint r₁ f₁.connective fields cs₁).blank =
          (Select.assemble endpoint r₂ f₂.connective fields cs₂).blank := by
      simp only [Select.assemble, Select.blank, hconn, hcs, hsort, hdir]
    have hcount : f₁.clauses.length = cs₁.length := hcs₁.length_eq
    rw [hcount]
    exact ⟨Select.sql_eq_of_blank_eq hblank d schema, Select.params_of_blank_eq hblank d⟩
  · intro id₁ id₂
    have hblank : (Select.ofId endpoint id₁).blank = (Select.ofId endpoint id₂).blank := rfl
    exact Select.sql_eq_of_blank_eq hblank d schema

theorem schools_text_independent : ∃ st₁ st₂,
    renderMany .postgres "main" .schools { Request.usual with filter := "name='x'" } = .ok st₁ ∧
    renderMany .postgres "main" .schools
      { Request.usual with filter := "name=''; DROP TABLE orgs --'", limit := 5 } = .ok st₂ ∧
    st₁.sql = st₂.sql ∧ st₁.params ≠ st₂.params := by
  refine ⟨_, _, rfl, rfl, ?_, by decide⟩
  exact ((text_independent_of_values .postgres "main" .schools).1
    { Request.usual with filter := "name='x'" }
    { Request.usual with filter := "name=''; DROP TABLE orgs --'", limit := 5 } _ _
    ⟨.and, [⟨"name", .eq, "x"⟩]⟩ ⟨.and, [⟨"name", .eq, "'; DROP TABLE orgs --"⟩]⟩
    Endpoint.schools.catalogue.selectable rfl rfl (by decide) (by decide) rfl rfl rfl rfl rfl rfl).1

end Sql
end Rostering
