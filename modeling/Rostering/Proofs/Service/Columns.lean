import Rostering.Proofs.Query.Checking
import Rostering.Proofs.Query.Parameters
import Rostering.Proofs.Sql.Paging
import Rostering.Proofs.Storage.Rows
import Rostering.Proofs.Text.Occurrences
import Rostering.Service

namespace Rostering

namespace Query

open Text (OnceInOrder)

def listedFields (query : String) : List String :=
  match lastValue? "fields" (Text.formPairs query) with
  | none => []
  | some raw => if Text.trimmed raw = "*" then [] else Text.commaList raw

structure Projects (selectable listed fields : List String) : Prop where
  nonempty : fields ≠ []
  nodup : fields.Nodup
  allowed : ∀ f ∈ fields, f ∈ selectable
  everything : listed = [] → fields = selectable
  inOrder : listed ≠ [] → OnceInOrder listed fields

theorem selection_eq_of_listed (limits : PageLimits) (query : String) :
    (Request.ofQuery limits query).selection =
      if listedFields query = [] then .everything else .listed (listedFields query) := by
  rw [Request.selection_ofQuery, listedFields]
  cases lastValue? "fields" (Text.formPairs query) with
  | none => rfl
  | some raw =>
      simp only [Option.map_some, Option.getD_some, Selection.parse]
      by_cases hstar : Text.trimmed raw = "*"
      · simp [hstar]
      · simp only [if_neg hstar]
        cases Text.commaList raw <;> simp

theorem projects_of_resolve {limits : PageLimits} {query : String}
    {selectable fields : List String} (hne : selectable ≠ []) (hnodup : selectable.Nodup)
    (h : (Request.ofQuery limits query).selection.resolve selectable = .ok fields) :
    Projects selectable (listedFields query) fields := by
  have hselectable : ∀ f ∈ fields, f ∈ selectable :=
    fun f hf => Sql.mem_selectable_of_resolve h hf
  rw [selection_eq_of_listed] at h
  by_cases hlisted : listedFields query = []
  · rw [if_pos hlisted] at h
    obtain rfl := Except.ok.inj h
    exact ⟨hne, hnodup, hselectable, fun _ => rfl, fun hsome => absurd hlisted hsome⟩
  · rw [if_neg hlisted, Selection.resolve] at h
    split at h
    · obtain rfl := Except.ok.inj h
      have honce := Text.onceInOrder_firstOccurrences (listedFields query)
      obtain ⟨f, hf⟩ := List.exists_mem_of_ne_nil _ hlisted
      have hfirst := List.ne_nil_of_mem ((honce.mem_iff f).mpr hf)
      exact ⟨hfirst, honce.nodup, hselectable, fun hnone => absurd hnone hlisted, fun _ => honce⟩
    · exact absurd h (by simp)

end Query

namespace Service

open Query (PageLimits Projects Request listedFields)
open Roster (Endpoint)
open Sql (Dialect readStatement renderMany viewName)
open Storage (Decodes Row Statement readRow)

theorem selectable_ne_nil (endpoint : Endpoint) : endpoint.catalogue.selectable ≠ [] := by
  cases endpoint <;> decide

theorem columns_as_listed (limits : PageLimits) (query : String) (endpoint : Endpoint)
    (d : Dialect) (schema : String) (st : Statement)
    (h : renderMany d schema endpoint (Request.ofQuery limits query) = .ok st) :
    ∃ reading page fields, readStatement d st.sql.toList = some (reading, page) ∧
      reading.columns = fields.map (fun f => (viewName endpoint.resource, f)) ∧
      Projects endpoint.catalogue.selectable (listedFields query) fields ∧
      ∀ (row : Row) (record : Record), row.map (·.1) = fields →
        (readRow row = .ok record ↔ List.Forall₂ Decodes row record) ∧
          (readRow row = .ok record → (Shape.normalize record).map (·.1) = fields) := by
  obtain ⟨s, hs, rfl⟩ := Sql.renderMany_eq_ok h
  obtain ⟨filter, fields, cs, -, hfields, -, rfl⟩ := Sql.Select.ofRequest_eq_ok hs
  have hprojects := Query.projects_of_resolve (selectable_ne_nil endpoint)
    (Roster.catalogue_selectable_nodup endpoint.resource) hfields
  refine ⟨_, _, fields, Sql.Select.readStatement_statement d schema _, rfl, hprojects, ?_⟩
  intro row record hrow
  have hread : readRow row = .ok record ↔ List.Forall₂ Decodes row record :=
    Storage.readRow_eq_ok_iff (hrow ▸ hprojects.nodup)
  refine ⟨hread, ?_⟩
  intro hrecord
  rw [Shape.normalize_columns, Storage.names_of_decodes (hread.mp hrecord), hrow]

theorem schools_columns :
    let query := "fields=name&limit=0&fields=type,+name%2C,type"
    listedFields query = ["type", "name", "type"] ∧
    ∃ st, renderMany .tsql "oneroster12" .schools (Request.ofQuery .usual query) = .ok st ∧
      ∃ reading page fields, readStatement .tsql st.sql.toList = some (reading, page) ∧
        reading.columns = fields.map (fun f => (viewName Endpoint.schools.resource, f)) ∧
        Projects Endpoint.schools.catalogue.selectable (listedFields query) fields ∧
        ∀ (row : Row) (record : Record), row.map (·.1) = fields →
          (readRow row = .ok record ↔ List.Forall₂ Decodes row record) ∧
            (readRow row = .ok record → (Shape.normalize record).map (·.1) = fields) := by
  intro query
  have hlisted : listedFields "fields=name&limit=0&fields=type,+name%2C,type" =
      ["type", "name", "type"] := by decide
  obtain ⟨st, hst⟩ : ∃ st, renderMany .tsql "oneroster12" .schools
      (Request.ofQuery .usual "fields=name&limit=0&fields=type,+name%2C,type") = .ok st := ⟨_, rfl⟩
  exact ⟨hlisted, st, hst, columns_as_listed .usual query .schools .tsql "oneroster12" st hst⟩

end Service
end Rostering
