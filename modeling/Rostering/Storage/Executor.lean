import Rostering.Json.Value

namespace Rostering

abbrev Record := Fields

namespace Storage

inductive Failure where
  | unavailable (message : String)
  | query (message : String)
  | decode (column message : String)
  | internal (message : String)
deriving DecidableEq, Repr

namespace Failure

def kind : Failure → String
  | .unavailable _ => "Unavailable"
  | .query _ => "Query"
  | .decode _ _ => "Decode"
  | .internal _ => "Internal"

def message : Failure → String
  | .unavailable m => "Database unavailable: " ++ m
  | .query m => "Query error: " ++ m
  | .decode column m => "Failed to decode column '" ++ column ++ "': " ++ m
  | .internal m => "Internal error: " ++ m

def category : Failure → String
  | .unavailable _ => "infrastructure"
  | .query _ => "query"
  | .decode _ _ => "decode"
  | .internal _ => "internal"

def isUnavailable : Failure → Bool
  | .unavailable _ => true
  | _ => false

end Failure

inductive Bound where
  | text (value : String)
  | integer (value : Int)
deriving DecidableEq, Repr

namespace Bound

def text? : Bound → Option String
  | .text value => some value
  | .integer _ => none

def integer? : Bound → Option Int
  | .text _ => none
  | .integer value => some value

def json : Bound → Json
  | .text value => .str value
  | .integer value => .int value

end Bound

structure Statement where
  sql : String
  params : List Bound
deriving DecidableEq, Repr

def Statement.json (s : Statement) : Json :=
  .obj [("sql", .str s.sql), ("params", .arr (s.params.map Bound.json))]

inductive Reply where
  | records (rows : List Record)
  | failed (failure : Failure)
  | silent

structure Executor where
  name : String
  run : Statement → Reply
  ping : Option (Except Failure Unit)

def Executor.constant (name : String) (reply : Reply) : Executor where
  name := name
  run := fun _ => reply
  ping := match reply with
    | .records _ => some (.ok ())
    | .failed failure => some (.error failure)
    | .silent => none

end Storage
end Rostering
