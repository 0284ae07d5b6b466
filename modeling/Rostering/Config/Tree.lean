import Rostering.Config.Settings

namespace Rostering.Config

inductive Tree where
  | text (value : String)
  | number (value : Nat)
  | flag (value : Bool)
  | part (entries : List (String × Tree))

namespace Tree

def optional {α : Type} (name : String) (write : α → Tree) (value : Option α) :
    List (String × Tree) :=
  (value.map fun v => (name, write v)).toList

end Tree

def ServerSettings.tree (s : ServerSettings) : Tree :=
  .part ([("host", .text s.host), ("port", .number s.port)] ++
    Tree.optional "base_url" .text s.baseUrl ++
    [("request_timeout_ms", .number s.requestTimeoutMs)])

def PostgresSettings.tree (s : PostgresSettings) : Tree :=
  .part (Tree.optional "url" .text s.url ++
    [("host", .text s.host), ("port", .number s.port), ("user", .text s.user)] ++
    Tree.optional "password" .text s.password ++
    [("database", .text s.database), ("pool_size", .number s.poolSize),
     ("connect_timeout_ms", .number s.connectTimeoutMs)] ++
    Tree.optional "idle_timeout_ms" .number s.idleTimeoutMs ++
    [("min_connections", .number s.minConnections)] ++
    Tree.optional "max_lifetime_secs" .number s.maxLifetimeSecs ++
    Tree.optional "statement_timeout_ms" .number s.statementTimeoutMs ++
    [("application_name", .text s.applicationName)])

def MssqlSettings.tree (s : MssqlSettings) : Tree :=
  .part (Tree.optional "connection_string" .text s.connectionString ++
    [("host", .text s.host), ("port", .number s.port), ("user", .text s.user)] ++
    Tree.optional "password" .text s.password ++
    [("database", .text s.database), ("trust_server_certificate", .flag s.trustServerCertificate),
     ("pool_size", .number s.poolSize), ("connect_timeout_ms", .number s.connectTimeoutMs)] ++
    Tree.optional "idle_timeout_ms" .number s.idleTimeoutMs)

def StorageSettings.tree (s : StorageSettings) : Tree :=
  .part ([("backend", .text s.backend.name), ("schema", .text s.schema)] ++
    Tree.optional "postgres" PostgresSettings.tree s.postgres ++
    Tree.optional "mssql" MssqlSettings.tree s.mssql)

def QuerySettings.tree (s : QuerySettings) : Tree :=
  .part (("default_limit", .number s.defaultLimit) ::
    Tree.optional "max_limit" .number s.maxLimit)

def AppConfig.tree (c : AppConfig) : Tree :=
  .part [("server", c.server.tree), ("storage", c.storage.tree), ("query", c.query.tree),
    ("logging", .part [("level", .text c.logging.level)]),
    ("auth", .part [("enforce_scopes", .flag c.auth.enforceScopes)])]

namespace Tree

mutual

def json : Tree → Json
  | .text value => .str value
  | .number value => .int value
  | .flag value => .bool value
  | .part entries => .obj (jsonFields entries)

def jsonFields : List (String × Tree) → List (String × Json)
  | [] => []
  | (name, value) :: rest => (name, json value) :: jsonFields rest

end

end Tree
end Rostering.Config
