import Rostering.Storage.Executor
import Rostering.Text.Integer

namespace Rostering.Mssql

inductive ClientError where
  | server (message : String)
  | io (message : String)
  | tls (message : String)
  | protocol (message : String)
  | routing (host : String) (port : Nat)
  | encoding (message : String)
  | conversion (message : String)
  | utf8
  | utf16
  | integer (message : String)
  | bulk (message : String)
deriving DecidableEq, Repr

namespace ClientError

def message : ClientError → String
  | .server m => "Token error: " ++ m
  | .io m => "An error occured during the attempt of performing I/O: " ++ m
  | .tls m => "Error forming TLS connection: " ++ m
  | .protocol m => "Protocol error: " ++ m
  | .routing host port =>
      "Server requested a connection to an alternative address: \x60" ++ host ++ ":" ++
        Text.natText port ++ "\x60"
  | .encoding m => "Encoding error: " ++ m
  | .conversion m => "Conversion error: " ++ m
  | .utf8 => "UTF-8 error"
  | .utf16 => "UTF-16 error"
  | .integer m => "Error parsing an integer: " ++ m
  | .bulk m => "BULK UPLOAD input failure: " ++ m

def failure (e : ClientError) : Storage.Failure :=
  match e with
  | .server m => .query m
  | .io _ | .tls _ | .routing _ _ | .protocol _ => .unavailable e.message
  | _ => .internal e.message

end ClientError

inductive Error where
  | client (error : ClientError)
  | connection (error : ClientError)
  | connectionIo (message : String)
  | pool (message : String)
  | config (message : String)
deriving DecidableEq, Repr

namespace Error

def poolTimedOut : Error := .pool "timed out waiting for a connection"

def message : Error → String
  | .client e => "Database error: " ++ e.message
  | .connection e => "Connection error: " ++ e.message
  | .connectionIo m => "Connection error: " ++ m
  | .pool m => "Pool error: " ++ m
  | .config m => "Configuration error: " ++ m

def chain (e : Error) : List String :=
  match e with
  | .client cause => [e.message, cause.message]
  | .connection cause => [e.message, cause.message]
  | .connectionIo m => [e.message, m]
  | _ => [e.message]

def failure (e : Error) : Storage.Failure :=
  match e with
  | .client cause => cause.failure
  | .connection cause =>
      match cause.failure with
      | .query m => .unavailable m
      | .internal m => .unavailable m
      | other => other
  | .connectionIo m => .unavailable m
  | .pool _ => .unavailable e.message
  | .config _ => .internal e.message

end Error
end Rostering.Mssql
