import Rostering.Http.Message
import Rostering.Query.Filter

namespace Rostering.Api

open Http (Response)
open Query (Fault)

structure ImsStatus where
  codeMajor : String
  severity : String
  description : String
  codeMinor : String
deriving DecidableEq, Repr

namespace ImsStatus

def failure (description codeMinor : String) : ImsStatus :=
  ⟨"failure", "error", description, codeMinor⟩

def json (s : ImsStatus) : Json :=
  .obj [("imsx_codeMajor", .str s.codeMajor), ("imsx_severity", .str s.severity),
    ("imsx_description", .str s.description), ("imsx_CodeMinor", .str s.codeMinor)]

def ofJson? (json : Json) : Option ImsStatus :=
  match json with
  | .arr [.str codeMajor, .str severity, .str description, .str codeMinor] =>
      some ⟨codeMajor, severity, description, codeMinor⟩
  | .obj _ => do
      let text (name : String) : Option String := (json.get? name).bind Json.text?
      some ⟨← text "imsx_codeMajor", ← text "imsx_severity", ← text "imsx_description",
        ← text "imsx_CodeMinor"⟩
  | _ => none

end ImsStatus

inductive Problem where
  | selection (description : String)
  | filter (description : String)
  | forbidden (message : String)
  | notFound
  | internal (detail : String)
deriving DecidableEq, Repr

namespace Problem

def message : Problem → String
  | .selection description => description
  | .filter description => description
  | .forbidden message => "Forbidden: " ++ message
  | .notFound => "Not found"
  | .internal detail => "Internal server error: " ++ detail

def status : Problem → Nat
  | .selection _ => 400
  | .filter _ => 400
  | .forbidden _ => 403
  | .notFound => 404
  | .internal _ => 500

def body : Problem → Json
  | .selection description => (ImsStatus.failure description Fault.badSelection).json
  | .filter description => (ImsStatus.failure description Fault.badFilter).json
  | .forbidden message => .obj [("message", .str message)]
  | .notFound => .obj [("error", .str "Not found")]
  | .internal _ => .obj [("error", .str "Internal Server Error")]

def response (p : Problem) : Response :=
  let plain := Response.json p.status p.body
  match p with
  | .forbidden _ => plain.withHeader "www-authenticate" "Bearer error=\"insufficient_scope\""
  | _ => plain

def ofFault (fault : Fault) : Problem :=
  match fault with
  | .selection _ _ => .selection fault.message
  | .storage failure => .internal failure.message
  | _ => .filter fault.message

end Problem
end Rostering.Api
