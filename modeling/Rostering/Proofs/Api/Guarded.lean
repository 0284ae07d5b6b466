import Rostering.Api.App
import Rostering.Proofs.Query.Refusals
import Rostering.Proofs.Text.Words

namespace Rostering.Api

open Http (Response)
open Query (Fault Filter)
open Roster (Endpoint Grant Resource)
open Storage (Failure Reply Statement)

inductive Ask where
  | collection (query : Option String)
  | record (id : String)

structure Call where
  grant : Option Grant
  name : String
  ask : Ask

def serve (app : App) (call : Call) : Handling :=
  match call.ask with
  | .collection query => listRecords app call.grant call.name query
  | .record id => readRecord app call.grant call.name id

def App.request (app : App) (query : Option String) : Query.Request :=
  Query.Request.ofQuery app.limits (query.getD "")

def App.render (app : App) (endpoint : Endpoint) : Ask → Except Fault Statement
  | .collection query =>
      Sql.renderMany app.service.dialect app.service.schema endpoint (app.request query)
  | .record id => .ok (Sql.renderOne app.service.dialect app.service.schema endpoint id)

def Authorised (app : App) (grant : Option Grant) (resource : Resource) : Prop :=
  app.enforceScopes = false ∨ ∃ held, grant = some held ∧
    (Roster.fullScope ∈ held.scopes ∨ Roster.requiredScope resource ∈ held.scopes)

def Admits (app : App) (call : Call) (statement : Statement) : Prop :=
  ∃ endpoint : Endpoint, endpoint.path = call.name ∧
    Authorised app call.grant endpoint.resource ∧ app.render endpoint call.ask = .ok statement

def refusal (description minorCode : String) : Response :=
  .json 400 (ImsStatus.failure description minorCode).json

def missing : Response := .json 404 (.obj [("error", .str "Not found")])

def forbidden (resource : Resource) : Response :=
  (Response.json 403 (.obj [("message", .str (Roster.scopeMessage resource))])).withHeader
    "www-authenticate" "Bearer error=\"insufficient_scope\""

def answer (endpoint : Endpoint) : Ask → Reply → Option Response
  | .collection _, .records rows =>
      some (.json 200 (Shape.wrapMany endpoint (rows.map Shape.normalize)))
  | .record _, .records [] => some missing
  | .record _, .records (row :: _) =>
      some (.json 200 (Shape.wrapOne endpoint (Shape.normalize row)))
  | _, .failed _ => some (.json 500 (.obj [("error", .str "Internal Server Error")]))
  | _, .silent => none

/-- The answers of an application, in the order in which the checks decide: each case assumes that
the checks before it have passed. -/
inductive Answered (app : App) (call : Call) : Option Response → Prop where
  | unknown (nowhere : ∀ endpoint : Endpoint, endpoint.path ≠ call.name) :
      Answered app call (some missing)
  | forbidden {endpoint : Endpoint} (found : endpoint.path = call.name)
      (unauthorised : ¬ Authorised app call.grant endpoint.resource) :
      Answered app call (some (forbidden endpoint.resource))
  | syntactic {endpoint : Endpoint} {query : Option String} {fault : Fault}
      (found : endpoint.path = call.name)
      (authorised : Authorised app call.grant endpoint.resource)
      (asked : call.ask = .collection query)
      (refused : Filter.parse (app.request query).filter = .error fault) :
      Answered app call (some (refusal fault.message "invalid_filter_field"))
  | selection {endpoint : Endpoint} {query : Option String} {filter : Filter} {fault : Fault}
      (found : endpoint.path = call.name)
      (authorised : Authorised app call.grant endpoint.resource)
      (asked : call.ask = .collection query)
      (parsed : Filter.parse (app.request query).filter = .ok filter)
      (refused : (app.request query).selection.resolve endpoint.catalogue.selectable =
        .error fault) :
      Answered app call (some (refusal fault.message "invalid_selection_field"))
  | comparison {endpoint : Endpoint} {query : Option String} {filter : Filter}
      {fields : List String} {fault : Fault}
      (found : endpoint.path = call.name)
      (authorised : Authorised app call.grant endpoint.resource)
      (asked : call.ask = .collection query)
      (parsed : Filter.parse (app.request query).filter = .ok filter)
      (selected : (app.request query).selection.resolve endpoint.catalogue.selectable = .ok fields)
      (refused : filter.check endpoint.catalogue = .error fault) :
      Answered app call (some (refusal fault.message "invalid_filter_field"))
  | sent {endpoint : Endpoint} {statement : Statement} (found : endpoint.path = call.name)
      (authorised : Authorised app call.grant endpoint.resource)
      (rendered : app.render endpoint call.ask = .ok statement) :
      Answered app call (answer endpoint call.ask (app.service.executor.run statement))

section Checks

variable {app : App} {call : Call} {endpoint : Endpoint}

theorem ofPath?_eq_none_iff {name : String} :
    Endpoint.ofPath? name = none ↔ ∀ endpoint : Endpoint, endpoint.path ≠ name := by
  rw [Endpoint.ofPath?, List.find?_eq_none]
  constructor
  · intro h endpoint
    simpa using h endpoint (Endpoint.mem_all endpoint)
  · intro h endpoint _
    simpa using h endpoint

theorem authorized_iff (grant : Option Grant) :
    authorized app grant endpoint = true ↔ Authorised app grant endpoint.resource := by
  cases grant with
  | none => simp [authorized, Authorised]
  | some held => simp [authorized, Authorised, Grant.allows_iff]

theorem access_of_unknown (h : ∀ endpoint : Endpoint, endpoint.path ≠ call.name) :
    access app call.grant call.name = .error .notFound := by
  rw [access, ofPath?_eq_none_iff.mpr h]

theorem access_of_unauthorised (found : endpoint.path = call.name)
    (h : ¬ Authorised app call.grant endpoint.resource) :
    access app call.grant call.name =
      .error (.forbidden (Roster.scopeMessage endpoint.resource)) := by
  rw [access, ← found, Endpoint.ofPath?_path]
  exact if_neg (fun hauth => h ((authorized_iff call.grant).mp hauth))

theorem access_of_authorised (found : endpoint.path = call.name)
    (h : Authorised app call.grant endpoint.resource) :
    access app call.grant call.name = .ok endpoint := by
  rw [access, ← found, Endpoint.ofPath?_path]
  exact if_pos ((authorized_iff call.grant).mpr h)

theorem serve_of_access_error {problem : Problem}
    (h : access app call.grant call.name = .error problem) :
    serve app call = .immediate problem.response := by
  unfold serve
  split
  · rw [listRecords, h]
  · rw [readRecord, h]

theorem serve_of_access_ok (h : access app call.grant call.name = .ok endpoint) :
    serve app call = match app.render endpoint call.ask with
      | .error fault => .immediate (Problem.ofFault fault).response
      | .ok statement =>
          ⟨[statement], answer endpoint call.ask (app.service.executor.run statement)⟩ := by
  unfold serve
  cases hask : call.ask with
  | collection query =>
      simp only [listRecords, h, App.render, App.request, respond, Service.queryMany]
      cases Sql.renderMany app.service.dialect app.service.schema endpoint
          (Query.Request.ofQuery app.limits (query.getD "")) with
      | error fault => rfl
      | ok statement =>
          simp only [Service.execute, answer]
          cases app.service.executor.run statement <;> rfl
  | record id =>
      simp only [readRecord, h, App.render, respond, Service.queryOne, Service.execute, answer]
      cases app.service.executor.run
          (Sql.renderOne app.service.dialect app.service.schema endpoint id) with
      | records rows => cases rows <;> rfl
      | failed failure => rfl
      | silent => rfl

end Checks

section Answers

variable {app : App} {call : Call} {endpoint : Endpoint}

theorem serve_of_fault (found : endpoint.path = call.name)
    (authorised : Authorised app call.grant endpoint.resource) {fault : Fault}
    (h : app.render endpoint call.ask = .error fault) :
    serve app call = .immediate (Problem.ofFault fault).response := by
  rw [serve_of_access_ok (access_of_authorised found authorised), h]

theorem serve_of_statement (found : endpoint.path = call.name)
    (authorised : Authorised app call.grant endpoint.resource) {statement : Statement}
    (h : app.render endpoint call.ask = .ok statement) :
    serve app call =
      ⟨[statement], answer endpoint call.ask (app.service.executor.run statement)⟩ := by
  rw [serve_of_access_ok (access_of_authorised found authorised), h]

theorem ofFault_of_parse_error {text : String} {fault : Fault}
    (h : Filter.parse text = .error fault) :
    (Problem.ofFault fault).response = refusal fault.message "invalid_filter_field" := by
  rcases Filter.parse_eq_error h with rfl | ⟨segment, rfl⟩
  · rfl
  · rfl

theorem ofFault_of_resolve_error {selectable : List String} {selection : Query.Selection}
    {fault : Fault} (h : selection.resolve selectable = .error fault) :
    (Problem.ofFault fault).response = refusal fault.message "invalid_selection_field" := by
  obtain ⟨fields, -, rfl⟩ := Query.Selection.resolve_eq_error h
  rfl

theorem ofFault_of_check_error {catalogue : Roster.Catalogue} {filter : Filter} {fault : Fault}
    (h : filter.check catalogue = .error fault) :
    (Problem.ofFault fault).response = refusal fault.message "invalid_filter_field" := by
  obtain ⟨clause, -, rfl | rfl⟩ := Filter.check_eq_error h
  · rfl
  · rfl

theorem Answered.response_eq {response : Option Response}
    (h : Answered app call response) :
    (serve app call).response = response := by
  cases h with
  | unknown nowhere => rw [serve_of_access_error (access_of_unknown nowhere)]; rfl
  | forbidden found unauthorised =>
      rw [serve_of_access_error (access_of_unauthorised found unauthorised)]
      rfl
  | @syntactic endpoint query fault found authorised asked refused =>
      have hfault : app.render endpoint call.ask = .error fault := by
        rw [asked]
        exact Sql.renderMany_of_parse_error _ _ refused
      rw [serve_of_fault found authorised hfault, Handling.immediate,
        ofFault_of_parse_error refused]
  | @selection endpoint query filter fault found authorised asked parsed refused =>
      have hfault : app.render endpoint call.ask = .error fault := by
        rw [asked]
        exact Sql.renderMany_of_resolve_error _ _ parsed refused
      rw [serve_of_fault found authorised hfault, Handling.immediate,
        ofFault_of_resolve_error refused]
  | @comparison endpoint query filter fields fault found authorised asked parsed selected refused =>
      have hfault : app.render endpoint call.ask = .error fault := by
        rw [asked]
        exact Sql.renderMany_of_check_error _ _ parsed selected refused
      rw [serve_of_fault found authorised hfault, Handling.immediate,
        ofFault_of_check_error refused]
  | sent found authorised rendered => rw [serve_of_statement found authorised rendered]

theorem exists_answered_collection {query : Option String} (found : endpoint.path = call.name)
    (authorised : Authorised app call.grant endpoint.resource)
    (asked : call.ask = .collection query) : ∃ response, Answered app call response := by
  cases hfilter : Filter.parse (app.request query).filter with
  | error fault => exact ⟨_, .syntactic found authorised asked hfilter⟩
  | ok filter =>
  cases hfields : (app.request query).selection.resolve endpoint.catalogue.selectable with
  | error fault => exact ⟨_, .selection found authorised asked hfilter hfields⟩
  | ok fields =>
  cases hcheck : filter.check endpoint.catalogue with
  | error fault => exact ⟨_, .comparison found authorised asked hfilter hfields hcheck⟩
  -- With all three checks passed there is a statement to send.
  | ok cs =>
      have hrender := Sql.renderMany_of_checks app.service.dialect app.service.schema hfilter
        hfields hcheck
      exact ⟨_, .sent found authorised (by rw [asked]; exact hrender)⟩

theorem call_cases (app : App) (call : Call) :
    (∀ endpoint : Endpoint, endpoint.path ≠ call.name) ∨
      (∃ endpoint : Endpoint, endpoint.path = call.name ∧
        ¬ Authorised app call.grant endpoint.resource) ∨
      ∃ endpoint : Endpoint, endpoint.path = call.name ∧
        Authorised app call.grant endpoint.resource := by
  by_cases hname : ∃ endpoint : Endpoint, endpoint.path = call.name
  · obtain ⟨endpoint, found⟩ := hname
    by_cases hauth : Authorised app call.grant endpoint.resource
    · exact .inr (.inr ⟨endpoint, found, hauth⟩)
    · exact .inr (.inl ⟨endpoint, found, hauth⟩)
  · exact .inl (by simpa using hname)

theorem exists_answered (app : App) (call : Call) : ∃ response, Answered app call response := by
  rcases call_cases app call with nowhere | ⟨endpoint, found, hauth⟩ | ⟨endpoint, found, hauth⟩
  · exact ⟨_, .unknown nowhere⟩
  · exact ⟨_, .forbidden found hauth⟩
  · cases hask : call.ask with
    | collection query => exact exists_answered_collection found hauth hask
    | record id => exact ⟨_, .sent found hauth (by rw [hask]; rfl)⟩

theorem serve_response_iff (response : Option Response) :
    (serve app call).response = response ↔
      Answered app call response := by
  constructor
  · rintro rfl
    obtain ⟨response, h⟩ := exists_answered app call
    rwa [h.response_eq]
  · exact Answered.response_eq

theorem serve_executed_iff (statement : Statement) :
    (serve app call).executed = [statement] ↔ Admits app call statement := by
  constructor
  · intro h
    rcases call_cases app call with nowhere | ⟨endpoint, found, hauth⟩ | ⟨endpoint, found, hauth⟩
    · rw [serve_of_access_error (access_of_unknown nowhere)] at h
      exact absurd h (by simp [Handling.immediate])
    · rw [serve_of_access_error (access_of_unauthorised found hauth)] at h
      exact absurd h (by simp [Handling.immediate])
    · cases hrender : app.render endpoint call.ask with
      | error fault =>
          rw [serve_of_fault found hauth hrender] at h
          exact absurd h (by simp [Handling.immediate])
      | ok sent =>
          rw [serve_of_statement found hauth hrender] at h
          obtain rfl : sent = statement := by simpa using h
          exact ⟨endpoint, found, hauth, hrender⟩
  · rintro ⟨endpoint, found, hauth, hrender⟩
    rw [serve_of_statement found hauth hrender]

theorem serve_executed_length (app : App) (call : Call) : (serve app call).executed.length ≤ 1 := by
  cases haccess : access app call.grant call.name with
  | error problem => simp [serve_of_access_error haccess, Handling.immediate]
  | ok endpoint =>
      rw [serve_of_access_ok haccess]
      split <;> simp [Handling.immediate]

end Answers

abbrev Database (σ : Type) := σ → Statement → Reply × σ

structure World (σ : Type) where
  state : σ
  received : List Statement

structure Visit (σ : Type) where
  world : World σ
  handling : Handling

section Runs

variable {σ : Type}

def World.reply (db : Database σ) (world : World σ) (statement : Statement) : Reply :=
  (db world.state statement).1

def World.receive (db : Database σ) (world : World σ) (statement : Statement) : World σ :=
  ⟨(db world.state statement).2, world.received ++ [statement]⟩

def App.facing (app : App) (reply : Statement → Reply) : App :=
  { app with service := { app.service with executor := { app.service.executor with run := reply } } }

def visit (app : App) (db : Database σ) (world : World σ) (call : Call) : Visit σ :=
  ⟨world, serve (app.facing (world.reply db)) call⟩

def Visit.after (db : Database σ) (visit : Visit σ) : World σ :=
  visit.handling.executed.foldl (World.receive db) visit.world

def run (app : App) (db : Database σ) : World σ → List Call → List (Visit σ) × World σ
  | world, [] => ([], world)
  | world, call :: calls =>
      let first := visit app db world call
      let rest := run app db (first.after db) calls
      (first :: rest.1, rest.2)

structure Guarded (app : App) (db : Database σ) (call : Call) (visit : Visit σ) : Prop where
  once : visit.handling.executed.length ≤ 1
  sends : ∀ statement, visit.handling.executed = [statement] ↔ Admits app call statement
  answers : ∀ response, visit.handling.response = response ↔
    Answered (app.facing (visit.world.reply db)) call response

theorem visit_guarded (app : App) (db : Database σ) (world : World σ) (call : Call) :
    Guarded app db call (visit app db world call) where
  once := serve_executed_length _ call
  sends := serve_executed_iff
  answers := serve_response_iff

theorem received_foldl (db : Database σ) (world : World σ) (statements : List Statement) :
    (statements.foldl (World.receive db) world).received = world.received ++ statements := by
  induction statements generalizing world with
  | nil => simp
  | cons statement statements ih => rw [List.foldl_cons, ih]; simp [World.receive]

theorem run_received (app : App) (db : Database σ) (start : World σ) (calls : List Call) :
    (run app db start calls).2.received =
      start.received ++ (run app db start calls).1.flatMap (·.handling.executed) := by
  induction calls generalizing start with
  | nil => simp [run]
  | cons call calls ih =>
      simp only [run, ih, List.flatMap_cons, Visit.after, received_foldl, List.append_assoc]
      rfl

theorem run_guarded (app : App) (db : Database σ) (start : World σ) (calls : List Call) :
    (run app db start calls).2.received =
        start.received ++ (run app db start calls).1.flatMap (·.handling.executed) ∧
      List.Forall₂ (Guarded app db) calls (run app db start calls).1 ∧
      ∀ claim resource, Authorised app (some (Grant.ofClaim claim)) resource ↔
        app.enforceScopes = false ∨ Text.IsWord Roster.fullScope.toList claim.toList ∨
          Text.IsWord (Roster.requiredScope resource).toList claim.toList := by
  refine ⟨run_received app db start calls, ?_, ?_⟩
  -- The next call meets the world that this one leaves.
  · induction calls generalizing start with
    | nil => exact .nil
    | cons call calls ih => exact .cons (visit_guarded app db start call) (ih _)
  · intro claim resource
    simp [Authorised, Roster.mem_ofClaim_iff]

end Runs
end Rostering.Api
