import Rostering.Config.Dotenv
import Rostering.Config.Load
import Rostering.Server
import Rostering.Toml.Write

namespace Rostering.CommandLine

open Config (AppConfig Environment Found LoadFault)

structure Launch where
  args : List String
  env : Environment
  lookUp : String → Found
  server : Storage.Server

inductive Outcome where
  | badConfig (fault : LoadFault)
  | printed (config : AppConfig)
  | badServer (fault : BuildFault)
  | serving (config : AppConfig) (app : Api.App)

def usualPath : String := "oneroster.toml"

def pathArgument? : List String → Option String
  | option :: path :: rest =>
      if option = "--config" then some path else pathArgument? (path :: rest)
  | _ => none

def configPath (args : List String) (env : Environment) : String :=
  match pathArgument? args with
  | some path => path
  | none =>
      match env.get? "ONEROSTER_CONFIG" with
      | some path => if path.isEmpty then usualPath else path
      | none => usualPath

def environment (s : Launch) : Environment × Option Config.Dotenv.LineFault :=
  match s.lookUp ".env" with
  | .file text => Config.Dotenv.apply s.env text
  | _ => (s.env, none)

def run (s : Launch) : Outcome :=
  let (env, _) := environment s
  let path := configPath s.args env
  match Config.load s.lookUp path env with
  | .error fault => .badConfig fault
  | .ok config =>
      if "--print-config" ∈ s.args then .printed config
      else
        match buildApp config none s.server with
        | .error fault => .badServer fault
        | .ok app => .serving config app

namespace Outcome

def code : Outcome → Nat
  | .badConfig _ => 2
  | .badServer (.mssql .impossible) => 101
  | .badServer _ => 2
  | _ => 0

def shown : Outcome → String
  | .printed config => config.redactedToml ++ "\n"
  | _ => ""

def complaint : Outcome → String
  | .badConfig fault => "Configuration error: " ++ fault.message ++ "\n"
  | .badServer fault => "Server initialization failed: " ++ fault.message ++ "\n"
  | _ => ""

end Outcome

def warning (s : Launch) : String :=
  match (environment s).2 with
  | some fault => "Warning: Failed to load .env file: " ++ fault.message ++ "\n"
  | none => ""

end Rostering.CommandLine
