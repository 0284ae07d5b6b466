import Mathlib.Data.List.Forall2
import Rostering.Sql.Select

namespace Rostering

open Query (Clause Comparison Connective Filter Request Selection)
open Roster (Catalogue Endpoint)

theorem bind_eq_ok_iff {α β ε : Type} {x : Except ε α} {f : α → Except ε β} {b : β} :
    (x >>= f) = .ok b ↔ ∃ a, x = .ok a ∧ f a = .ok b := by
  cases x with
  | error e => simp [bind, Except.bind]
  | ok a => simp [bind, Except.bind]

theorem forall₂_of_mapM_eq_ok {α β ε : Type} {f : α → Except ε β} {xs : List α} {ys : List β}
    (h : xs.mapM f = .ok ys) : List.Forall₂ (fun x y => f x = .ok y) xs ys := by
  induction xs generalizing ys with
  | nil =>
      obtain rfl : [] = ys := by simpa [pure, Except.pure] using h
      exact .nil
  | cons x xs ih =>
      simp only [List.mapM_cons, bind_eq_ok_iff] at h
      obtain ⟨y, hy, zs, hzs, heq⟩ := h
      obtain rfl : y :: zs = ys := Except.ok.inj heq
      exact .cons hy (ih hzs)

theorem mapM_eq_ok_of_forall₂ {α β ε : Type} {f : α → Except ε β} {xs : List α} {ys : List β}
    (h : List.Forall₂ (fun x y => f x = .ok y) xs ys) : xs.mapM f = .ok ys := by
  induction h with
  | nil => rfl
  | cons hx _ ih => rw [List.mapM_cons, hx, ih]; rfl

theorem exists_of_mem_forall₂ {α β : Type} {R : α → β → Prop} {xs : List α} {ys : List β}
    (h : List.Forall₂ R xs ys) {y : β} (hy : y ∈ ys) : ∃ x ∈ xs, R x y := by
  induction h with
  | nil => simp at hy
  | cons hx _ ih =>
      rcases List.mem_cons.mp hy with rfl | hy
      · exact ⟨_, by simp, hx⟩
      · obtain ⟨x, hmem, hx⟩ := ih hy
        exact ⟨x, List.mem_cons_of_mem _ hmem, hx⟩

namespace Query

structure Checked (catalogue : Catalogue) (clause : Clause) (c : Comparison) : Prop where
  filterable : clause.field ∈ catalogue.filterable
  field : c.field = clause.field
  kind : c.kind = catalogue.kindOf clause.field
  operator : c.operator = clause.operator
  searched : clause.operator = .contains → c.value = clause.value
  literal : clause.operator ≠ .contains →
    (catalogue.kindOf clause.field).normalize clause.value = some c.value

theorem Clause.checked_of_check {catalogue : Catalogue} {clause : Clause} {c : Comparison}
    (h : clause.check catalogue = .ok c) : Checked catalogue clause c := by
  unfold Clause.check at h
  split at h
  · rename_i hfield
    split at h
    · rename_i hop
      obtain rfl := Except.ok.inj h
      exact ⟨hfield, rfl, rfl, hop.symm, fun _ => rfl, fun hne => absurd hop hne⟩
    · rename_i hop
      dsimp only at h
      split at h
      · rename_i literal hliteral
        obtain rfl := Except.ok.inj h
        exact ⟨hfield, rfl, rfl, rfl, fun heq => absurd heq hop, fun _ => hliteral⟩
      · exact absurd h (by simp)
  · exact absurd h (by simp)

theorem Filter.checked_of_check {catalogue : Catalogue} {filter : Filter} {cs : List Comparison}
    (h : filter.check catalogue = .ok cs) :
    List.Forall₂ (Checked catalogue) filter.clauses cs :=
  (forall₂_of_mapM_eq_ok h).imp fun _ _ => Clause.checked_of_check

theorem filterable_of_checked {catalogue : Catalogue} {clauses : List Clause}
    {cs : List Comparison} (h : List.Forall₂ (Checked catalogue) clauses cs) {c : Comparison}
    (hmem : c ∈ cs) : c.field ∈ catalogue.filterable := by
  induction h with
  | nil => simp at hmem
  | cons hc _ ih =>
      rcases List.mem_cons.mp hmem with rfl | hmem
      · exact hc.field ▸ hc.filterable
      · exact ih hmem

end Query

namespace Sql

def Select.assemble (endpoint : Endpoint) (request : Request) (connective : Connective)
    (fields : List String) (cs : List Comparison) : Select where
  resource := endpoint.resource
  fields := fields
  connective := connective
  comparisons := cs
  restriction := endpoint.restriction?.map Comparison.ofRestriction
  order := orderFields endpoint.catalogue request.sort
  direction := request.direction
  limit := request.limit
  offset := request.offset

theorem Select.ofRequest_eq_ok {endpoint : Endpoint} {request : Request} {s : Select}
    (h : Select.ofRequest endpoint request = .ok s) : ∃ filter fields cs,
      Filter.parse request.filter = .ok filter ∧
      request.selection.resolve endpoint.catalogue.selectable = .ok fields ∧
      List.Forall₂ (Query.Checked endpoint.catalogue) filter.clauses cs ∧
      s = assemble endpoint request filter.connective fields cs := by
  simp only [Select.ofRequest, bind_eq_ok_iff] at h
  obtain ⟨filter, hfilter, fields, hfields, cs, hcs, heq⟩ := h
  exact ⟨filter, fields, cs, hfilter, hfields, Filter.checked_of_check hcs,
    (Except.ok.inj heq).symm⟩

structure Select.Serves (endpoint : Endpoint) (clauses : List Clause) (s : Select) : Prop where
  resource : s.resource = endpoint.resource
  fields : ∀ f ∈ s.fields, f ∈ endpoint.catalogue.selectable
  comparisons : List.Forall₂ (Query.Checked endpoint.catalogue) clauses s.comparisons
  restriction : s.restriction = endpoint.restriction?.map Comparison.ofRestriction
  order : ∀ f ∈ s.order, f ∈ endpoint.catalogue.selectable

theorem mem_selectable_of_resolve {selectable fields : List String} {selection : Selection}
    (h : selection.resolve selectable = .ok fields) {f : String} (hf : f ∈ fields) :
    f ∈ selectable := by
  cases selection with
  | everything =>
      obtain rfl := Except.ok.inj h
      exact hf
  | listed asked =>
      simp only [Selection.resolve] at h
      split at h
      · rename_i hnone
        obtain rfl := Except.ok.inj h
        have hall := List.filter_eq_nil_iff.mp hnone f (Text.mem_firstOccurrences.mp hf)
        simpa using hall
      · exact absurd h (by simp)

theorem mem_selectable_of_orderFields {endpoint : Endpoint} {sort : List String} {f : String}
    (hf : f ∈ orderFields endpoint.catalogue sort) : f ∈ endpoint.catalogue.selectable := by
  unfold orderFields at hf
  split at hf
  · obtain rfl := List.mem_singleton.mp hf
    exact Roster.catalogue_defaultSort_selectable endpoint.resource
  · have hmem := Text.mem_firstOccurrences.mp hf
    simpa using (List.mem_filter.mp hmem).2

theorem Select.serves_ofRequest {endpoint : Endpoint} {request : Request} {s : Select}
    (h : Select.ofRequest endpoint request = .ok s) :
    ∃ filter, Filter.parse request.filter = .ok filter ∧ s.Serves endpoint filter.clauses ∧
      s.connective = filter.connective ∧ s.limit = request.limit ∧ s.offset = request.offset := by
  obtain ⟨filter, fields, cs, hfilter, hfields, hcs, rfl⟩ := ofRequest_eq_ok h
  exact ⟨filter, hfilter, ⟨rfl, fun _ => mem_selectable_of_resolve hfields, hcs, rfl,
    fun _ => mem_selectable_of_orderFields⟩, rfl, rfl, rfl⟩

theorem Select.serves_ofId (endpoint : Endpoint) (id : String) :
    (Select.ofId endpoint id).Serves endpoint [⟨"sourcedId", .eq, id⟩] := by
  have hfield : "sourcedId" ∈ endpoint.catalogue.filterable := by cases endpoint <;> decide
  have hkind : endpoint.catalogue.kindOf "sourcedId" = .text := by cases endpoint <;> decide
  have horder : ∀ f ∈ orderFields endpoint.catalogue [], f ∈ endpoint.catalogue.selectable :=
    fun _ => mem_selectable_of_orderFields
  refine ⟨rfl, fun _ hf => hf, .cons ?_ .nil, rfl, horder⟩
  exact ⟨hfield, rfl, hkind.symm, rfl, fun _ => rfl,
    fun _ => by simp [hkind, Roster.FieldKind.normalize]⟩

theorem renderMany_eq_ok {d : Dialect} {schema : String} {endpoint : Endpoint} {request : Request}
    {st : Storage.Statement} (h : renderMany d schema endpoint request = .ok st) :
    ∃ s, Select.ofRequest endpoint request = .ok s ∧ st = s.statement d schema := by
  unfold renderMany at h
  cases hs : Select.ofRequest endpoint request with
  | error fault => simp [hs, Except.map] at h
  | ok s =>
      simp only [hs, Except.map, Except.ok.injEq] at h
      exact ⟨s, rfl, h.symm⟩

end Sql
end Rostering
