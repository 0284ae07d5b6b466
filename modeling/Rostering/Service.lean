import Rostering.Json.Parse
import Rostering.Roster.Endpoint
import Rostering.Sql.Select
import Rostering.Storage.Executor

namespace Rostering.Shape

open Roster (Endpoint)

def jsonColumns : List String :=
  ["metadata", "parent", "children", "grades", "subjects", "course", "school", "terms",
   "subjectCodes", "periods", "resources", "org", "class", "user", "userIds", "roles",
   "userProfiles", "agentSourceIds"]

def opensStructure : List Char → Bool
  | '\x7b' :: _ => true
  | '[' :: _ => true
  | _ => false

def decodeText (value : Json) : Json :=
  match value with
  | .str s =>
      let cs := Text.trimStart s.toList
      if opensStructure cs then (Json.parseChars cs).getD value else value
  | _ => value

def decodeColumn (column : String × Json) : String × Json :=
  if column.1 ∈ jsonColumns then (column.1, decodeText column.2) else column

def normalize (record : Record) : Record := record.map decodeColumn

def wrapMany (endpoint : Endpoint) (records : List Record) : Json :=
  .obj [(endpoint.collectionKey, .arr (records.map Json.obj))]

def wrapOne (endpoint : Endpoint) (record : Record) : Json :=
  .obj [(endpoint.singularKey, .obj record)]

theorem normalize_columns (record : Record) :
    (normalize record).map (·.1) = record.map (·.1) := by
  simp only [normalize, List.map_map]
  congr 1
  funext column
  simp only [Function.comp, decodeColumn]
  split <;> rfl

end Rostering.Shape

namespace Rostering

open Query (Fault Request)
open Roster (Endpoint)
open Storage (Executor Statement)

def defaultSchema : String := "oneroster12"

structure Service where
  dialect : Sql.Dialect
  schema : String
  executor : Executor

structure Run (α : Type) where
  executed : List Statement
  answer : Option (Except Fault α)

namespace Service

def execute (service : Service) (statement : Statement) : Run (List Record) :=
  { executed := [statement]
    answer := match service.executor.run statement with
      | .records rows => some (.ok (rows.map Shape.normalize))
      | .failed failure => some (.error (.storage failure))
      | .silent => none }

def queryMany (service : Service) (endpoint : Endpoint) (request : Request) : Run (List Record) :=
  match Sql.renderMany service.dialect service.schema endpoint request with
  | .error fault => ⟨[], some (.error fault)⟩
  | .ok statement => service.execute statement

def queryOne (service : Service) (endpoint : Endpoint) (id : String) : Run (Option Record) :=
  let run := service.execute (Sql.renderOne service.dialect service.schema endpoint id)
  ⟨run.executed, run.answer.map (·.map List.head?)⟩

end Service
end Rostering
