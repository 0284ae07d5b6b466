import Rostering.Mssql.ConnectString
import Rostering.Storage.Wire

namespace Rostering.Mssql

open Storage (Executor Server)

structure PoolOptions where
  connectionString : String
  poolSize : Nat
  connectTimeoutMs : Nat
  idleTimeoutMs : Option Nat
deriving DecidableEq, Repr

structure ConnectionParts where
  host : String
  port : Nat
  user : String
  password : String
  database : String
  trustServerCertificate : Bool
deriving DecidableEq, Repr

def ConnectionParts.text (p : ConnectionParts) : String :=
  "server=tcp:" ++ p.host ++ "," ++ Text.natText p.port ++ ";user=" ++ p.user ++ ";password=" ++
    p.password ++ ";database=" ++ p.database ++ ";TrustServerCertificate=" ++
    (if p.trustServerCertificate then "true" else "false")

namespace PoolOptions

def usual : PoolOptions where
  connectionString :=
    "server=tcp:localhost,1433;database=oneroster;TrustServerCertificate=true"
  poolSize := 10
  connectTimeoutMs := 5000
  idleTimeoutMs := some 300000

def fault? (o : PoolOptions) : Option Error :=
  if o.poolSize = 0 then some (.config "pool_size must be greater than 0") else none

def json (o : PoolOptions) : Json :=
  let natural (n : Nat) : Json := .int n
  .obj [("connection_string", .str o.connectionString), ("pool_size", natural o.poolSize),
    ("connect_timeout_ms", natural o.connectTimeoutMs),
    ("idle_timeout_ms", (o.idleTimeoutMs.map natural).getD .null)]

end PoolOptions

def isSecretKey (key : List Char) : Bool :=
  let name := String.ofList (Text.trim key)
  Text.sameIgnoringCase name "password" || Text.sameIgnoringCase name "pwd"

def maskPart (part : List Char) : List Char :=
  match Text.cut? ['='] part with
  | some (key, _) => if isSecretKey key then key ++ "=****".toList else part
  | none => part

def mask (connectionString : String) : String :=
  String.ofList (List.intercalate [';']
    ((Text.pieces (· == ';') connectionString.toList).map maskPart))

inductive Refusal where
  | error (error : Error)
  | impossible
deriving DecidableEq, Repr

def PoolOptions.leavesTime (o : PoolOptions) : Bool :=
  o.connectTimeoutMs ≠ 0 ∧ o.idleTimeoutMs ≠ some 0

def openFault? (o : PoolOptions) : Option Refusal :=
  match o.fault? with
  | some error => some (.error error)
  | none =>
      match verdict o.connectionString with
      | .faulty error => some (.error (.client error))
      | .contradictory => some .impossible
      | .usable => if o.leavesTime then none else some .impossible

def executor (server : Server) : Executor where
  name := "mssql"
  run := fun statement =>
    if server.link = .connected then
      server.ask .tsql (fun m => (ClientError.server m).failure) statement
    else .failed Error.poolTimedOut.failure
  ping := some (if server.link = .connected then .ok () else .error Error.poolTimedOut.failure)

def connect (o : PoolOptions) (server : Server) : Except Refusal Executor :=
  match openFault? o with
  | some refusal => .error refusal
  | none => .ok (executor server)

end Rostering.Mssql
