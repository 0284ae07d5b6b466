import Rostering.Proofs.Query.Checking

namespace Rostering

open Query (Clause Comparison Fault Filter Request Selection)
open Roster (Catalogue Endpoint)

theorem exists_eq_append_cons_iff {α : Type} {p : List α → α → List α → Prop} {y : α}
    {ys : List α} : (∃ before x after, y :: ys = before ++ x :: after ∧ p before x after) ↔
      p [] y ys ∨ ∃ before x after, ys = before ++ x :: after ∧ p (y :: before) x after := by
  constructor
  · rintro ⟨before, x, after, hsplit, hp⟩
    cases before with
    | nil =>
        obtain ⟨rfl, rfl⟩ := List.cons.inj hsplit
        exact .inl hp
    | cons z before =>
        obtain ⟨rfl, rfl⟩ := List.cons.inj hsplit
        exact .inr ⟨before, x, after, rfl, hp⟩
  · rintro (hp | ⟨before, x, after, rfl, hp⟩)
    · exact ⟨[], y, ys, rfl, hp⟩
    · exact ⟨y :: before, x, after, rfl, hp⟩

theorem mapM_eq_error_iff {α β ε : Type} {f : α → Except ε β} {xs : List α} {e : ε} :
    xs.mapM f = .error e ↔ ∃ before x after, xs = before ++ x :: after ∧
      (∀ y ∈ before, ∃ z, f y = .ok z) ∧ f x = .error e := by
  induction xs with
  | nil => simp [pure, Except.pure]
  | cons x xs ih =>
      rw [exists_eq_append_cons_iff, List.mapM_cons]
      cases hx : f x with
      | error e' => simp [hx, bind, Except.bind]
      | ok y =>
          simp only [List.forall_mem_cons, hx, Except.ok.injEq, exists_eq', true_and, ← ih]
          cases xs.mapM f <;> simp [bind, Except.bind, pure, Except.pure]

theorem exists_of_mapM_eq_error {α β ε : Type} {f : α → Except ε β} {xs : List α} {e : ε}
    (h : xs.mapM f = .error e) : ∃ x ∈ xs, f x = .error e := by
  obtain ⟨before, x, after, rfl, -, hx⟩ := mapM_eq_error_iff.mp h
  exact ⟨x, by simp, hx⟩

theorem exists_mapM_eq_ok {α β ε : Type} {f : α → Except ε β} {xs : List α}
    (h : ∀ x ∈ xs, ∃ y, f x = .ok y) : ∃ ys, xs.mapM f = .ok ys := by
  cases hxs : xs.mapM f with
  | ok ys => exact ⟨ys, rfl⟩
  | error e =>
      obtain ⟨x, hmem, hx⟩ := exists_of_mapM_eq_error hxs
      obtain ⟨y, hy⟩ := h x hmem
      exact absurd (hx.symm.trans hy) (by simp)

namespace Query

theorem Clause.parse_eq_error {segment : List Char} {fault : Fault}
    (h : Clause.parse segment = .error fault) :
    fault = .filterSyntax (String.ofList segment) := by
  unfold Clause.parse at h
  split at h
  · exact (Except.error.inj h).symm
  · dsimp only at h
    split at h
    · exact (Except.error.inj h).symm
    · exact absurd h (by simp)

theorem Filter.parse_eq_error {text : String} {fault : Fault}
    (h : Filter.parse text = .error fault) :
    fault = .mixedConnectives text ∨ ∃ segment, fault = .filterSyntax (String.ofList segment) := by
  unfold Filter.parse Filter.parseChars at h
  split at h
  · exact absurd h (by simp)
  · dsimp only at h
    split at h
    · left
      rw [← Except.error.inj h, String.ofList_toList]
    · split at h
      · exact absurd h (by simp)
      · rename_i hclauses
        obtain rfl := Except.error.inj h
        obtain ⟨segment, -, hsegment⟩ := exists_of_mapM_eq_error hclauses
        exact .inr ⟨segment, Clause.parse_eq_error hsegment⟩

theorem Selection.resolve_eq_error {selectable : List String} {selection : Selection}
    {fault : Fault} (h : selection.resolve selectable = .error fault) :
    ∃ fields, selection = .listed fields ∧
      fault = .selection (fields.filter (· ∉ selectable)) selectable := by
  cases selection with
  | everything => exact absurd h (by simp [Selection.resolve])
  | listed fields =>
      simp only [Selection.resolve] at h
      split at h
      · exact absurd h (by simp)
      · exact ⟨fields, rfl, (Except.error.inj h).symm⟩

def Clause.Unfit (catalogue : Catalogue) (clause : Clause) : Prop :=
  clause.field ∉ catalogue.filterable ∨
    clause.operator ≠ .contains ∧ (catalogue.kindOf clause.field).normalize clause.value = none

instance (catalogue : Catalogue) (clause : Clause) : Decidable (clause.Unfit catalogue) :=
  inferInstanceAs (Decidable (_ ∨ _))

def Clause.faultIn (catalogue : Catalogue) (clause : Clause) : Fault :=
  if clause.field ∈ catalogue.filterable then
    .filterValue clause.field clause.value (catalogue.kindOf clause.field)
  else .filterField clause.field

theorem Clause.check_of_unfit {catalogue : Catalogue} {clause : Clause}
    (h : clause.Unfit catalogue) : clause.check catalogue = .error (clause.faultIn catalogue) := by
  unfold Clause.check Clause.faultIn
  by_cases hfield : clause.field ∈ catalogue.filterable
  · obtain ⟨hop, hvalue⟩ := h.resolve_left (not_not_intro hfield)
    rw [if_pos hfield, if_pos hfield]
    split
    · contradiction
    · simp only [hvalue]
  · rw [if_neg hfield, if_neg hfield]

theorem Clause.check_of_not_unfit {catalogue : Catalogue} {clause : Clause}
    (h : ¬ clause.Unfit catalogue) : ∃ c, clause.check catalogue = .ok c := by
  obtain ⟨hfield, hvalue⟩ := not_or.mp h
  unfold Clause.check
  rw [if_pos (not_not.mp hfield)]
  split
  · exact ⟨_, rfl⟩
  · rename_i hop
    obtain ⟨literal, hliteral⟩ := Option.ne_none_iff_exists'.mp fun hnone => hvalue ⟨hop, hnone⟩
    simp only [hliteral]
    exact ⟨_, rfl⟩

theorem Clause.check_eq_error {catalogue : Catalogue} {clause : Clause} {fault : Fault}
    (h : clause.check catalogue = .error fault) : fault = clause.faultIn catalogue := by
  by_cases hunfit : clause.Unfit catalogue
  · exact (Except.error.inj ((Clause.check_of_unfit hunfit).symm.trans h)).symm
  · obtain ⟨c, hc⟩ := Clause.check_of_not_unfit hunfit
    exact absurd (hc.symm.trans h) (by simp)

theorem Filter.check_eq_error {catalogue : Catalogue} {filter : Filter} {fault : Fault}
    (h : filter.check catalogue = .error fault) :
    ∃ clause ∈ filter.clauses, fault = .filterField clause.field ∨
      fault = .filterValue clause.field clause.value (catalogue.kindOf clause.field) := by
  obtain ⟨clause, hmem, hclause⟩ := exists_of_mapM_eq_error h
  refine ⟨clause, hmem, ?_⟩
  rw [Clause.check_eq_error hclause, Clause.faultIn]
  split
  · exact .inr rfl
  · exact .inl rfl

end Query

namespace Sql

variable (d : Dialect) (schema : String) {endpoint : Endpoint} {request : Request}

theorem renderMany_of_parse_error {fault : Fault} (h : Filter.parse request.filter = .error fault) :
    renderMany d schema endpoint request = .error fault := by
  simp only [renderMany, Select.ofRequest, h]
  rfl

theorem renderMany_of_resolve_error {filter : Filter} {fault : Fault}
    (hfilter : Filter.parse request.filter = .ok filter)
    (h : request.selection.resolve endpoint.catalogue.selectable = .error fault) :
    renderMany d schema endpoint request = .error fault := by
  simp only [renderMany, Select.ofRequest, hfilter, h]
  rfl

theorem renderMany_of_check_error {filter : Filter} {fields : List String} {fault : Fault}
    (hfilter : Filter.parse request.filter = .ok filter)
    (hfields : request.selection.resolve endpoint.catalogue.selectable = .ok fields)
    (h : filter.check endpoint.catalogue = .error fault) :
    renderMany d schema endpoint request = .error fault := by
  simp only [renderMany, Select.ofRequest, hfilter, hfields]
  change Except.map _ (filter.check endpoint.catalogue >>= _) = _
  rw [h]
  rfl

theorem renderMany_of_checks {filter : Filter} {fields : List String} {cs : List Comparison}
    (hfilter : Filter.parse request.filter = .ok filter)
    (hfields : request.selection.resolve endpoint.catalogue.selectable = .ok fields)
    (hcs : filter.check endpoint.catalogue = .ok cs) :
    renderMany d schema endpoint request =
      .ok ((Select.assemble endpoint request filter.connective fields cs).statement d schema) := by
  simp only [renderMany, Select.ofRequest, hfilter, hfields]
  change Except.map _ (filter.check endpoint.catalogue >>= _) = _
  rw [hcs]
  rfl

end Sql
end Rostering
