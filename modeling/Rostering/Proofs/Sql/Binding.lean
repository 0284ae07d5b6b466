import Rostering.Proofs.Query.Refusals
import Rostering.Proofs.Sql.Placeholders
import Rostering.Sql.Sink

namespace Rostering.Sql

open Query (Checked Clause Comparison Connective Fault Filter Request)
open Roster (Catalogue Endpoint Resource)
open Storage (Bound Statement)

namespace Rendering

variable {α β : Type} {sink sink' : Sink}

theorem onto_pure (a : α) : (pure a : Rendering α).onto sink = (.ok a, sink) := rfl

theorem onto_check (x : Except Fault α) : (liftM x : Rendering α).onto sink = (x, sink) := rfl

theorem onto_bind (r : Rendering α) (f : α → Rendering β) :
    (r >>= f).onto sink = match r.onto sink with
      | (.ok a, sink') => (f a).onto sink'
      | (.error fault, sink') => (.error fault, sink') := by
  unfold onto ExceptT.run StateT.run
  simp only [bind, ExceptT.bind, ExceptT.mk, StateT.bind, ExceptT.bindCont]
  cases r sink with
  | mk result sink' => cases result <;> rfl

theorem onto_bind_ok {r : Rendering α} {f : α → Rendering β} {a : α}
    (h : r.onto sink = (.ok a, sink')) : (r >>= f).onto sink = (f a).onto sink' := by
  rw [onto_bind, h]

theorem onto_bind_error {r : Rendering α} {f : α → Rendering β} {fault : Fault}
    (h : r.onto sink = (.error fault, sink')) : (r >>= f).onto sink = (.error fault, sink') := by
  rw [onto_bind, h]

end Rendering

theorem Sink.append_append (sink : Sink) (values more : List Bound) :
    (sink.append values).append more = sink.append (values ++ more) := by
  simp [append]

theorem Sink.append_nil (sink : Sink) : sink.append [] = sink := by
  simp [append]

theorem Sink.next_append (sink : Sink) (values : List Bound) :
    (sink.append values).next = sink.next + values.length := by
  simp only [append, next, List.length_append]
  omega

def numbered (d : Dialect) (resource : Resource) (position : Nat) (cs : List Comparison) :
    List (List Token) :=
  (cs.zipIdx position).map fun (c, n) => comparisonTokens d resource c n

section filter

variable (d : Dialect) (resource : Resource) (sink : Sink)

theorem intercalate_numbered (connective : Connective) {cs : List Comparison} (hne : cs ≠ [])
    (position : Nat) :
    List.intercalate [.gap, .word connective.word, .gap] (numbered d resource position cs) =
      conditionTokens d resource connective position cs := by
  induction cs generalizing position with
  | nil => contradiction
  | cons c cs ih =>
      cases cs with
      | nil => simp [numbered, conditionTokens]
      | cons next rest =>
          rw [conditionTokens, ← ih (List.cons_ne_nil _ _)]
          change List.intercalate _ (_ :: numbered d resource (position + 1) (next :: rest)) = _
          exact List.intercalate_cons_cons

theorem onto_renderComparison (c : Comparison) :
    (renderComparison d resource c).onto sink =
      (.ok (comparisonTokens d resource c sink.next), sink.append [boundOf d c]) := rfl

theorem onto_mapM_renderComparison (cs : List Comparison) :
    Rendering.onto (cs.mapM (renderComparison d resource)) sink =
      (.ok (numbered d resource sink.next cs), sink.append (cs.map (boundOf d))) := by
  induction cs generalizing sink with
  | nil =>
      rw [List.mapM_nil, Rendering.onto_pure, List.map_nil, Sink.append_nil]
      rfl
  | cons c cs ih =>
      rw [List.mapM_cons, Rendering.onto_bind_ok (onto_renderComparison d resource sink c),
        Rendering.onto_bind_ok (ih _), Rendering.onto_pure, Sink.append_append, Sink.next_append]
      rfl

variable {catalogue : Catalogue} {filter : Filter}

theorem onto_renderFilter_of_error {fault : Fault} (h : filter.check catalogue = .error fault) :
    (renderFilter d catalogue filter).onto sink = (.error fault, sink) := by
  unfold renderFilter
  rw [h]
  exact Rendering.onto_bind_error (Rendering.onto_check _)

theorem onto_renderFilter_of_checks {cs : List Comparison} (h : filter.check catalogue = .ok cs) :
    (renderFilter d catalogue filter).onto sink =
      (.ok (conditionTokens d catalogue.resource filter.connective sink.next cs),
        sink.append (cs.map (boundOf d))) := by
  unfold renderFilter
  rw [h, Rendering.onto_bind_ok (Rendering.onto_check _)]
  cases cs with
  | nil =>
      rw [List.map_nil, Sink.append_nil]
      rfl
  | cons c cs =>
      rw [List.isEmpty_cons, if_neg (by simp)]
      rw [Rendering.onto_bind_ok (onto_mapM_renderComparison d _ sink _), Rendering.onto_pure,
        intercalate_numbered d _ _ (List.cons_ne_nil _ _)]

-- the clauses before the first unfit one pass their checks, so that its fault is the one reported
theorem onto_renderFilter_of_unfit {clause : Clause}
    (h : filter.clauses.find? (·.Unfit catalogue) = some clause) :
    (renderFilter d catalogue filter).onto sink = (.error (clause.faultIn catalogue), sink) := by
  obtain ⟨hunfit, before, after, hclauses, hbefore⟩ := List.find?_eq_some_iff_append.mp h
  apply onto_renderFilter_of_error d sink
  apply mapM_eq_error_iff.mpr
  refine ⟨before, clause, after, hclauses, ?_, Clause.check_of_unfit (of_decide_eq_true hunfit)⟩
  intro other hmem
  exact Clause.check_of_not_unfit (by simpa using hbefore other hmem)

theorem onto_renderFilter_of_fit (h : filter.clauses.find? (·.Unfit catalogue) = none) :
    ∃ condition texts, List.Forall₂ (Binds d catalogue) filter.clauses texts ∧
      positions condition = List.range' sink.next texts.length ∧
      (renderFilter d catalogue filter).onto sink =
        (.ok condition, sink.append (texts.map Bound.text)) := by
  have hfit : ∀ clause ∈ filter.clauses, ∃ c, clause.check catalogue = .ok c := by
    intro clause hmem
    exact Clause.check_of_not_unfit (by simpa using List.find?_eq_none.mp h clause hmem)
  obtain ⟨cs, hcs⟩ := exists_mapM_eq_ok hfit
  have hchecked := Filter.checked_of_check hcs
  obtain ⟨texts, hbinds, hbounds⟩ := binds_of_checked (d := d) hchecked
  have hlength : cs.length = texts.length := by simpa using congrArg List.length hbounds
  refine ⟨_, texts, hbinds, ?_, hbounds ▸ onto_renderFilter_of_checks d sink hcs⟩
  rw [positions_conditionTokens, hlength]

end filter

theorem renderFilter_whole (d : Dialect) (catalogue : Catalogue) (filter : Filter) (sink : Sink) :
    ((∃ fault, ((renderFilter d catalogue filter).onto sink).1 = .error fault) ↔
      ∃ clause ∈ filter.clauses, clause.Unfit catalogue) ∧
    (∀ clause, filter.clauses.find? (·.Unfit catalogue) = some clause →
      (renderFilter d catalogue filter).onto sink = (.error (clause.faultIn catalogue), sink)) ∧
    (filter.clauses.find? (·.Unfit catalogue) = none →
      ∃ condition texts, List.Forall₂ (Binds d catalogue) filter.clauses texts ∧
        positions condition = List.range' sink.next texts.length ∧
        (renderFilter d catalogue filter).onto sink =
          (.ok condition, sink.append (texts.map Bound.text))) := by
  refine ⟨?_, fun _ => onto_renderFilter_of_unfit d sink, onto_renderFilter_of_fit d sink⟩
  cases h : filter.clauses.find? (·.Unfit catalogue) with
  | some clause =>
      have hunfit : clause.Unfit catalogue := by simpa using List.find?_some h
      exact ⟨fun _ => ⟨clause, List.mem_of_find?_eq_some h, hunfit⟩,
        fun _ => ⟨_, congrArg Prod.fst (onto_renderFilter_of_unfit d sink h)⟩⟩
  | none =>
      obtain ⟨condition, texts, -, -, hrender⟩ := onto_renderFilter_of_fit d sink h
      have hnone := List.find?_eq_none.mp h
      constructor
      · rintro ⟨fault, hfault⟩
        rw [hrender] at hfault
        contradiction
      · rintro ⟨clause, hmem, hunfit⟩
        exact absurd (decide_eq_true hunfit) (hnone clause hmem)

theorem renderFilter_second_clause :
    (renderFilter .postgres Roster.academicSessionsCatalogue
        ⟨.and, [⟨"title", .eq, "Fall"⟩, ⟨"startDate", .gt, "soon"⟩, ⟨"room", .eq, "1"⟩]⟩).onto
          ⟨[.integer 7]⟩ =
      (.error (.filterValue "startDate" "soon" .date), ⟨[.integer 7]⟩) ∧
    ∃ condition, (renderFilter .tsql Roster.academicSessionsCatalogue
        ⟨.or, [⟨"title", .contains, "50%"⟩, ⟨"startDate", .lt, "2026-9-1"⟩]⟩).onto ⟨[.integer 7]⟩ =
      (.ok condition, ⟨[.integer 7, .text "%50\\%%", .text "2026-09-01"]⟩) := by
  constructor
  · exact (renderFilter_whole _ _ _ _).2.1 ⟨"startDate", .gt, "soon"⟩ (by decide)
  · obtain ⟨condition, texts, hbinds, -, hrender⟩ := (renderFilter_whole .tsql
      Roster.academicSessionsCatalogue
      ⟨.or, [⟨"title", .contains, "50%"⟩, ⟨"startDate", .lt, "2026-9-1"⟩]⟩
      ⟨[.integer 7]⟩).2.2 (by decide)
    refine ⟨condition, hrender.trans ?_⟩
    cases hbinds with
    | cons hpattern hrest =>
        cases hrest with
        | cons hdate hnil =>
            obtain rfl := hpattern
            obtain rfl := Option.some.inj hdate
            cases hnil
            rfl

section request

variable (d : Dialect) (schema : String) {endpoint : Endpoint} (request : Request) {sink : Sink}

theorem onto_renderWhere_of_error {filter : Filter} {fault : Fault}
    (h : filter.check endpoint.catalogue = .error fault) :
    (renderWhere d endpoint filter).onto sink = (.error fault, sink) :=
  Rendering.onto_bind_error (onto_renderFilter_of_error d sink h)

theorem onto_renderWhere_of_checks {filter : Filter} {cs : List Comparison} (fields : List String)
    (h : filter.check endpoint.catalogue = .ok cs) :
    (renderWhere d endpoint filter).onto .empty =
      (.ok ((Select.assemble endpoint request filter.connective fields cs).whereTokens d),
        Sink.empty.append
          ((Select.assemble endpoint request filter.connective fields cs).allComparisons.map
            (boundOf d))) := by
  have hresource : endpoint.catalogue.resource = endpoint.resource :=
    Roster.catalogue_resource endpoint.resource
  unfold renderWhere
  -- An empty sink starts at placeholder one, as the condition of a query does.
  rw [Rendering.onto_bind_ok (onto_renderFilter_of_checks d _ h), hresource]
  unfold Select.whereTokens Select.allComparisons Select.assemble
  cases hrestriction : endpoint.restriction? with
  | none =>
      rw [Rendering.onto_pure, Option.map_none, Option.toList_none, List.append_nil]
      rfl
  | some restriction =>
      simp only
      rw [Rendering.onto_bind_ok (onto_renderComparison d _ _ _), Rendering.onto_pure,
        Sink.append_append, Sink.next_append, List.length_map, Nat.add_comm]
      simp only [Option.map_some, Option.toList_some, List.map_append]
      rfl

theorem onto_renderPage (limit offset : Nat) :
    (renderPage d limit offset).onto sink =
      (.ok (pageTokens d sink.next), sink.append (pageBounds d limit offset)) := rfl

theorem onto_renderSelect_of_error {filter : Filter} {fault : Fault} (fields : List String)
    (h : filter.check endpoint.catalogue = .error fault) :
    (renderSelect d schema endpoint request filter fields).onto sink = (.error fault, sink) :=
  Rendering.onto_bind_error (onto_renderWhere_of_error d h)

theorem onto_renderSelect_of_checks {filter : Filter} {cs : List Comparison} (fields : List String)
    (h : filter.check endpoint.catalogue = .ok cs) :
    (renderSelect d schema endpoint request filter fields).onto .empty =
      (.ok ((Select.assemble endpoint request filter.connective fields cs).tokens d schema),
        ⟨(Select.assemble endpoint request filter.connective fields cs).params d⟩) := by
  unfold renderSelect
  rw [Rendering.onto_bind_ok (onto_renderWhere_of_checks d request fields h),
    Rendering.onto_bind_ok (onto_renderPage d _ _), Rendering.onto_pure, Sink.next_append,
    List.length_map, Nat.add_comm]
  rfl

theorem statement_renderRequest :
    (renderRequest d schema endpoint request).statement d =
      renderMany d schema endpoint request := by
  unfold renderRequest Rendering.statement
  cases hfilter : Filter.parse request.filter with
  | error fault =>
      rw [renderMany_of_parse_error d schema hfilter,
        Rendering.onto_bind_error (Rendering.onto_check _)]
  | ok filter =>
  rw [Rendering.onto_bind_ok (Rendering.onto_check _)]
  cases hfields : request.selection.resolve endpoint.catalogue.selectable with
  | error fault =>
      rw [renderMany_of_resolve_error d schema hfilter hfields,
        Rendering.onto_bind_error (Rendering.onto_check _)]
  | ok fields =>
  rw [Rendering.onto_bind_ok (Rendering.onto_check _)]
  cases hcs : filter.check endpoint.catalogue with
  | error fault =>
      rw [renderMany_of_check_error d schema hfilter hfields hcs,
        onto_renderSelect_of_error d schema request fields hcs]
  | ok cs =>
      rw [renderMany_of_checks d schema hfilter hfields hcs,
        onto_renderSelect_of_checks d schema request fields hcs]
      rfl

end request

end Rostering.Sql
