import Rostering.Mssql.Executor
import Rostering.Net.Address
import Rostering.Postgres.Executor
import Rostering.Query.Request
import Rostering.Service

namespace Rostering.Config

open Query (PageLimits)
open Sql (Dialect)

structure ServerSettings where
  host : String
  port : Nat
  baseUrl : Option String
  requestTimeoutMs : Nat
deriving DecidableEq, Repr

def ServerSettings.usual : ServerSettings := ⟨"0.0.0.0", 8080, none, 30000⟩

structure PostgresSettings where
  url : Option String
  host : String
  port : Nat
  user : String
  password : Option String
  database : String
  poolSize : Nat
  connectTimeoutMs : Nat
  idleTimeoutMs : Option Nat
  minConnections : Nat
  maxLifetimeSecs : Option Nat
  statementTimeoutMs : Option Nat
  applicationName : String
deriving DecidableEq, Repr

def usualDatabase : String := "oneroster"

def usualPoolSize : Nat := 10

def usualConnectTimeoutMs : Nat := 5000

def usualApplicationName : String := "oneroster-server"

def PostgresSettings.usual : PostgresSettings where
  url := none
  host := "localhost"
  port := 5432
  user := "postgres"
  password := none
  database := usualDatabase
  poolSize := usualPoolSize
  connectTimeoutMs := usualConnectTimeoutMs
  idleTimeoutMs := none
  minConnections := 0
  maxLifetimeSecs := none
  statementTimeoutMs := none
  applicationName := usualApplicationName

structure MssqlSettings where
  connectionString : Option String
  host : String
  port : Nat
  user : String
  password : Option String
  database : String
  trustServerCertificate : Bool
  poolSize : Nat
  connectTimeoutMs : Nat
  idleTimeoutMs : Option Nat
deriving DecidableEq, Repr

def MssqlSettings.usual : MssqlSettings where
  connectionString := none
  host := "localhost"
  port := 1433
  user := "sa"
  password := none
  database := usualDatabase
  trustServerCertificate := false
  poolSize := usualPoolSize
  connectTimeoutMs := usualConnectTimeoutMs
  idleTimeoutMs := none

structure StorageSettings where
  backend : Dialect
  schema : String
  postgres : Option PostgresSettings
  mssql : Option MssqlSettings
deriving DecidableEq, Repr

def StorageSettings.usual : StorageSettings :=
  ⟨.postgres, defaultSchema, some .usual, none⟩

structure QuerySettings where
  defaultLimit : Nat
  maxLimit : Option Nat
deriving DecidableEq, Repr

def QuerySettings.usual : QuerySettings := ⟨Query.usualLimit, none⟩

def QuerySettings.pageLimits (q : QuerySettings) : PageLimits := ⟨q.defaultLimit, q.maxLimit⟩

structure LoggingSettings where
  level : String
deriving DecidableEq, Repr

def LoggingSettings.usual : LoggingSettings := ⟨"info"⟩

structure AuthSettings where
  enforceScopes : Bool
deriving DecidableEq, Repr

def AuthSettings.usual : AuthSettings := ⟨false⟩

structure AppConfig where
  server : ServerSettings
  storage : StorageSettings
  query : QuerySettings
  logging : LoggingSettings
  auth : AuthSettings
deriving DecidableEq, Repr

def AppConfig.usual : AppConfig := ⟨.usual, .usual, .usual, .usual, .usual⟩

namespace AppConfig

def address (c : AppConfig) : String :=
  Net.socketText ((Net.Address.read c.server.host).getD Net.anywhere) c.server.port

def hidden : String := "****"

def redacted (c : AppConfig) : AppConfig :=
  let hide (secret : Option String) : Option String := secret.map fun _ => hidden
  { c with storage := { c.storage with
      postgres := c.storage.postgres.map fun pg =>
        { pg with password := hide pg.password, url := hide pg.url }
      mssql := c.storage.mssql.map fun ms =>
        { ms with password := hide ms.password, connectionString := hide ms.connectionString } } }

end AppConfig

theorem ite_some_eq_none_iff {α : Type} {p : Prop} [Decidable p] {a : α} {o : Option α} :
    (if p then some a else o) = none ↔ ¬ p ∧ o = none := by
  split <;> simp [*]

def logLevels : List String := ["trace", "debug", "info", "warn", "error", "off"]

def PostgresSettings.fault? (pg : PostgresSettings) : Option String :=
  if pg.url.isNone ∧ pg.host = "" then
    some "storage.postgres requires either 'url' or 'host' to be set"
  else if pg.url.isNone ∧ pg.database = "" then
    some "storage.postgres.database must not be empty"
  else if pg.poolSize = 0 then some "storage.postgres.pool_size must be > 0"
  else if pg.poolSize < pg.minConnections then
    some "storage.postgres.min_connections must not exceed pool_size"
  else none

def MssqlSettings.fault? (ms : MssqlSettings) : Option String :=
  if ms.connectionString.isNone ∧ ms.host = "" then
    some "storage.mssql requires either 'connection_string' or 'host' to be set"
  else if ms.connectionString.isNone ∧ ms.database = "" then
    some "storage.mssql.database must not be empty"
  else if ms.poolSize = 0 then some "storage.mssql.pool_size must be > 0"
  else none

def StorageSettings.backendFault? (s : StorageSettings) : Option String :=
  match s.backend with
  | .postgres =>
      match s.postgres with
      | some pg => pg.fault?
      | none => some "storage.postgres config is required when backend = \"postgres\""
  | .tsql =>
      match s.mssql with
      | some ms => ms.fault?
      | none => some "storage.mssql config is required when backend = \"mssql\""

namespace AppConfig

def fault? (c : AppConfig) : Option String :=
  if c.server.port = 0 then some "server.port must be > 0"
  else if c.server.requestTimeoutMs = 0 then some "server.request_timeout_ms must be > 0"
  else if c.query.defaultLimit = 0 then some "query.default_limit must be > 0"
  else if c.query.maxLimit.any (· < c.query.defaultLimit) then
    some "query.max_limit must be >= query.default_limit"
  else if Text.lowerAscii c.logging.level ∉ logLevels then
    some ("logging.level must be one of [" ++
      String.intercalate ", " (logLevels.map fun level => "\"" ++ level ++ "\"") ++ "]")
  else if Text.isBlankText c.storage.schema then some "storage.schema must not be empty"
  else c.storage.backendFault?

def Valid (c : AppConfig) : Prop := c.fault? = none

instance (c : AppConfig) : Decidable c.Valid := inferInstanceAs (Decidable (_ = _))

theorem valid_iff {c : AppConfig} : c.Valid ↔
    c.server.port ≠ 0 ∧ c.server.requestTimeoutMs ≠ 0 ∧ c.query.defaultLimit ≠ 0 ∧
      (∀ max ∈ c.query.maxLimit, c.query.defaultLimit ≤ max) ∧
      Text.lowerAscii c.logging.level ∈ logLevels ∧ Text.isBlankText c.storage.schema = false ∧
      c.storage.backendFault? = none := by
  have hmax : c.query.maxLimit.any (· < c.query.defaultLimit) = false ↔
      ∀ max ∈ c.query.maxLimit, c.query.defaultLimit ≤ max := by
    cases c.query.maxLimit <;> simp
  simp only [Valid, fault?, ite_some_eq_none_iff, Bool.not_eq_true, hmax, Decidable.not_not]

end AppConfig

def PostgresSettings.connectionUrl (s : PostgresSettings) : String :=
  match s.url with
  | some url => url
  | none =>
      let password := (s.password.map (":" ++ ·)).getD ""
      "postgres://" ++ s.user ++ password ++ "@" ++ s.host ++ ":" ++ Text.natText s.port ++ "/" ++
        s.database

def PostgresSettings.pool (s : PostgresSettings) : Postgres.PoolOptions where
  url := s.connectionUrl
  poolSize := s.poolSize
  minConnections := s.minConnections
  connectTimeoutMs := s.connectTimeoutMs
  idleTimeoutMs := s.idleTimeoutMs <|> Postgres.PoolOptions.usual.idleTimeoutMs
  maxLifetimeSecs := s.maxLifetimeSecs <|> Postgres.PoolOptions.usual.maxLifetimeSecs
  statementTimeoutMs := s.statementTimeoutMs
  applicationName := s.applicationName

def MssqlSettings.parts (s : MssqlSettings) : Mssql.ConnectionParts where
  host := s.host
  port := s.port
  user := s.user
  password := s.password.getD ""
  database := s.database
  trustServerCertificate := s.trustServerCertificate

def MssqlSettings.pool (s : MssqlSettings) : Mssql.PoolOptions where
  connectionString := s.connectionString.getD s.parts.text
  poolSize := s.poolSize
  connectTimeoutMs := s.connectTimeoutMs
  idleTimeoutMs := s.idleTimeoutMs

end Rostering.Config
