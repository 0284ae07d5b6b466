import Rostering.Config.Settings

namespace Rostering.Config

open Sql (Dialect)

/-- How the sections of a configuration look to a reader: named entries, or the values alone in the
order in which the fields are declared. -/
inductive View (ν : Type) where
  | named (get : String → Option ν)
  | listed (values : List ν)

structure Source (ν : Type) where
  part : Nat → ν → Option (View ν)
  text : ν → Option String
  number : Nat → ν → Option Nat
  flag : ν → Option Bool
  choice : ν → Option String
  isNull : ν → Bool

namespace View

variable {ν : Type}

def entry? (view : View ν) (index : Nat) (name : String) : Option ν :=
  match view with
  | .named get => get name
  | .listed values => values[index]?

def field {α : Type} (view : View ν) (index : Nat) (name : String) (read : ν → Option α)
    (default : α) : Option α :=
  match view.entry? index name with
  | some value => read value
  | none => some default

end View

variable {ν : Type}

def Source.optional {α : Type} (src : Source ν) (read : ν → Option α) (value : ν) :
    Option (Option α) :=
  if src.isNull value then some none else (read value).map some

def limit16 : Nat := 65536

def limit32 : Nat := 4294967296

def ServerSettings.read (src : Source ν) (node : ν) : Option ServerSettings := do
  let v ← src.part 4 node
  let usual := ServerSettings.usual
  return {
    host := ← v.field 0 "host" src.text usual.host
    port := ← v.field 1 "port" (src.number limit16) usual.port
    baseUrl := ← v.field 2 "base_url" (src.optional src.text) none
    requestTimeoutMs :=
      ← v.field 3 "request_timeout_ms" (src.number Text.u64Limit) usual.requestTimeoutMs }

def PostgresSettings.read (src : Source ν) (node : ν) : Option PostgresSettings := do
  let v ← src.part 13 node
  let usual := PostgresSettings.usual
  let u64 := src.number Text.u64Limit
  return {
    url := ← v.field 0 "url" (src.optional src.text) none
    host := ← v.field 1 "host" src.text usual.host
    port := ← v.field 2 "port" (src.number limit16) usual.port
    user := ← v.field 3 "user" src.text usual.user
    password := ← v.field 4 "password" (src.optional src.text) none
    database := ← v.field 5 "database" src.text usual.database
    poolSize := ← v.field 6 "pool_size" (src.number limit32) usual.poolSize
    connectTimeoutMs := ← v.field 7 "connect_timeout_ms" u64 usual.connectTimeoutMs
    idleTimeoutMs := ← v.field 8 "idle_timeout_ms" (src.optional u64) none
    minConnections := ← v.field 9 "min_connections" (src.number limit32) usual.minConnections
    maxLifetimeSecs := ← v.field 10 "max_lifetime_secs" (src.optional u64) none
    statementTimeoutMs := ← v.field 11 "statement_timeout_ms" (src.optional u64) none
    applicationName := ← v.field 12 "application_name" src.text usual.applicationName }

def MssqlSettings.read (src : Source ν) (node : ν) : Option MssqlSettings := do
  let v ← src.part 10 node
  let usual := MssqlSettings.usual
  let u64 := src.number Text.u64Limit
  return {
    connectionString := ← v.field 0 "connection_string" (src.optional src.text) none
    host := ← v.field 1 "host" src.text usual.host
    port := ← v.field 2 "port" (src.number limit16) usual.port
    user := ← v.field 3 "user" src.text usual.user
    password := ← v.field 4 "password" (src.optional src.text) none
    database := ← v.field 5 "database" src.text usual.database
    trustServerCertificate :=
      ← v.field 6 "trust_server_certificate" src.flag usual.trustServerCertificate
    poolSize := ← v.field 7 "pool_size" (src.number limit32) usual.poolSize
    connectTimeoutMs := ← v.field 8 "connect_timeout_ms" u64 usual.connectTimeoutMs
    idleTimeoutMs := ← v.field 9 "idle_timeout_ms" (src.optional u64) none }

def StorageSettings.read (src : Source ν) (node : ν) : Option StorageSettings := do
  let v ← src.part 4 node
  return {
    backend := ← v.field 0 "backend" (fun x => (src.choice x).bind Dialect.ofName?) .postgres
    schema := ← v.field 1 "schema" src.text defaultSchema
    postgres := ← v.field 2 "postgres" (src.optional (PostgresSettings.read src)) none
    mssql := ← v.field 3 "mssql" (src.optional (MssqlSettings.read src)) none }

def QuerySettings.read (src : Source ν) (node : ν) : Option QuerySettings := do
  let v ← src.part 2 node
  let u64 := src.number Text.u64Limit
  return {
    defaultLimit := ← v.field 0 "default_limit" u64 QuerySettings.usual.defaultLimit
    maxLimit := ← v.field 1 "max_limit" (src.optional u64) none }

def LoggingSettings.read (src : Source ν) (node : ν) : Option LoggingSettings := do
  let v ← src.part 1 node
  return { level := ← v.field 0 "level" src.text LoggingSettings.usual.level }

def AuthSettings.read (src : Source ν) (node : ν) : Option AuthSettings := do
  let v ← src.part 1 node
  return { enforceScopes := ← v.field 0 "enforce_scopes" src.flag false }

def AppConfig.read (src : Source ν) (node : ν) : Option AppConfig := do
  let v ← src.part 5 node
  return {
    server := ← v.field 0 "server" (ServerSettings.read src) .usual
    storage := ← v.field 1 "storage" (StorageSettings.read src) .usual
    query := ← v.field 2 "query" (QuerySettings.read src) .usual
    logging := ← v.field 3 "logging" (LoggingSettings.read src) .usual
    auth := ← v.field 4 "auth" (AuthSettings.read src) .usual }

def jsonSource : Source Json where
  part count json :=
    match json with
    | .obj fields => some (.named fun name => Fields.get? name fields)
    | .arr values => if values.length ≤ count then some (.listed values) else none
    | _ => none
  text := Json.text?
  number bound json := json.nat?.bind fun n => if n < bound then some n else none
  flag := Json.bool?
  choice json :=
    match json with
    | .str name => some name
    | .obj [(name, .null)] => some name
    | _ => none
  isNull json :=
    match json with
    | .null => true
    | _ => false

def AppConfig.ofJson? (json : Json) : Option AppConfig := AppConfig.read jsonSource json

end Rostering.Config
