import Rostering.Postgres.ConnectUrl
import Rostering.Storage.Wire

namespace Rostering.Postgres

open Storage (Executor Server)

structure PoolOptions where
  url : String
  poolSize : Nat
  minConnections : Nat
  connectTimeoutMs : Nat
  idleTimeoutMs : Option Nat
  maxLifetimeSecs : Option Nat
  statementTimeoutMs : Option Nat
  applicationName : String
deriving DecidableEq, Repr

namespace PoolOptions

def usual : PoolOptions where
  url := "postgres://localhost/oneroster"
  poolSize := 10
  minConnections := 0
  connectTimeoutMs := 5000
  idleTimeoutMs := some 300000
  maxLifetimeSecs := some 1800
  statementTimeoutMs := none
  applicationName := "oneroster-server"

def fault? (o : PoolOptions) : Option Error :=
  if o.poolSize = 0 then some (.config "pool_size must be greater than 0")
  else if o.poolSize < o.minConnections then
    some (.config ("min_connections (" ++ Text.natText o.minConnections ++
      ") exceeds pool_size (" ++ Text.natText o.poolSize ++ ")"))
  else none

theorem fault?_eq_none_iff (o : PoolOptions) :
    o.fault? = none ↔ 0 < o.poolSize ∧ o.minConnections ≤ o.poolSize := by
  unfold fault?
  split
  · simp_all
  · split
    · simp; omega
    · simp; omega

def sessionSettings (o : PoolOptions) : List (String × String) :=
  [("default_transaction_read_only", "on"), ("TimeZone", "UTC")] ++
    (o.statementTimeoutMs.map fun ms => ("statement_timeout", Text.natText ms)).toList

def json (o : PoolOptions) : Json :=
  let natural (n : Nat) : Json := .int n
  let orNull (n : Option Nat) : Json := (n.map natural).getD .null
  .obj [("url", .str o.url), ("pool_size", natural o.poolSize),
    ("min_connections", natural o.minConnections),
    ("connect_timeout_ms", natural o.connectTimeoutMs),
    ("idle_timeout_ms", orNull o.idleTimeoutMs), ("max_lifetime_secs", orNull o.maxLifetimeSecs),
    ("statement_timeout_ms", orNull o.statementTimeoutMs),
    ("application_name", .str o.applicationName)]

end PoolOptions

def schemeMark : List Char := [':', '/', '/']

def splitScheme (url : List Char) : List Char × List Char :=
  match Text.cut? schemeMark url with
  | some (scheme, rest) => (scheme ++ schemeMark, rest)
  | none => ([], url)

def maskUrl? (url : String) : Option String :=
  let (scheme, rest) := splitScheme url.toList
  match Text.cutLast? '@' rest with
  | some (before, after) =>
      match Text.cut? [':'] before with
      | some (user, _) =>
          some (String.ofList (scheme ++ user ++ ":****@".toList ++ after))
      | none => some url
  | none => if '@' ∈ scheme then none else some url

def linkFault? (timeoutMs : Nat) (target : Net.Target) (link : Net.Link) : Option DriverError :=
  if timeoutMs = 0 then some .poolTimedOut
  else
    match link with
    | .connected => none
    | .refused => some .poolTimedOut
    | .unreachable => some (.io target.absence)

def openFault? (o : PoolOptions) (server : Server) : Option Error :=
  match o.fault? with
  | some error => some error
  | none =>
      match readUrl o.url with
      | .error fault => some (.driver fault)
      | .ok target =>
          (linkFault? o.connectTimeoutMs target server.link).map .driver <|>
            server.startFault.map fun m => .driver (.database m)

def executor (server : Server) : Executor where
  name := "postgres"
  run := server.ask .postgres .query
  ping := some (match server.pingFault with
    | none => .ok ()
    | some m => .error (.query m))

def connect (o : PoolOptions) (server : Server) : Except Error Executor :=
  match openFault? o server with
  | some error => .error error
  | none => .ok (executor server)

end Rostering.Postgres
