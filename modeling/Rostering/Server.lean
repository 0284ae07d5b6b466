import Rostering.Api.App
import Rostering.Config.Settings
import Rostering.Mssql.Executor
import Rostering.Postgres.Executor

namespace Rostering

open Config (AppConfig)
open Sql (Dialect)
open Storage (Executor Server)

inductive BuildFault where
  | catalogue (fault : Roster.CatalogueFault)
  | noSection (engine : Dialect)
  | postgres (error : Postgres.Error)
  | mssql (refusal : Mssql.Refusal)

namespace BuildFault

def chain : BuildFault → List String
  | .catalogue fault => ["endpoint registry is inconsistent", fault.message]
  | .noSection engine => ["storage." ++ engine.name ++ " config is required"]
  | .postgres error => error.chain
  | .mssql (.error error) => error.chain
  | .mssql .impossible => ["the options of the connection pool are impossible"]

def message (f : BuildFault) : String := String.intercalate ": " f.chain

end BuildFault

def connectExecutor (c : AppConfig) (server : Server) : Except BuildFault Executor :=
  match c.storage.backend with
  | .postgres =>
      match c.storage.postgres with
      | none => .error (.noSection .postgres)
      | some settings =>
          match Postgres.connect settings.pool server with
          | .ok executor => .ok executor
          | .error error => .error (.postgres error)
  | .tsql =>
      match c.storage.mssql with
      | none => .error (.noSection .tsql)
      | some settings =>
          match Mssql.connect settings.pool server with
          | .ok executor => .ok executor
          | .error refusal => .error (.mssql refusal)

def Api.App.ofConfig (c : AppConfig) (executor : Executor) : Api.App where
  service := ⟨c.storage.backend, c.storage.schema, executor⟩
  enforceScopes := c.auth.enforceScopes
  limits := c.query.pageLimits
  baseUrl := c.server.baseUrl

def buildApp (c : AppConfig) (given : Option Executor) (server : Server) :
    Except BuildFault Api.App :=
  match Roster.catalogueFault? with
  | some fault => .error (.catalogue fault)
  | none =>
      match given with
      | some executor => .ok (Api.App.ofConfig c executor)
      | none => (connectExecutor c server).map (Api.App.ofConfig c)

end Rostering
