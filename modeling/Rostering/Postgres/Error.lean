import Rostering.Storage.Executor

namespace Rostering.Postgres

inductive DriverError where
  | poolTimedOut
  | poolClosed
  | workerCrashed
  | rowNotFound
  | io (message : String)
  | tls (message : String)
  | protocol (message : String)
  | configuration (message : String) (causes : List String)
  | database (message : String)
  | decode (message : String)
  | columnNotFound (name : String)
deriving DecidableEq, Repr

namespace DriverError

def message : DriverError → String
  | .poolTimedOut => "pool timed out while waiting for an open connection"
  | .poolClosed => "attempted to acquire a connection on a closed pool"
  | .workerCrashed => "attempted to communicate with a crashed background worker"
  | .rowNotFound => "no rows returned by a query that expected to return at least one row"
  | .io m => "error communicating with database: " ++ m
  | .tls m => "error occurred while attempting to establish a TLS connection: " ++ m
  | .protocol m => "encountered unexpected or invalid data: " ++ m
  | .configuration m _ => "error with configuration: " ++ m
  | .database m => "error returned from database: " ++ m
  | .decode m => "error occurred while decoding: " ++ m
  | .columnNotFound name => "no column found for name: " ++ name

def causes : DriverError → List String
  | .io m => [m]
  | .tls m => [m]
  | .configuration m more => m :: more
  | .database m => [m]
  | .decode m => [m]
  | _ => []

def isConnectivity : DriverError → Bool
  | .io _ | .tls _ | .protocol _ | .poolTimedOut | .poolClosed | .workerCrashed => true
  | _ => false

end DriverError

inductive Error where
  | driver (error : DriverError)
  | config (message : String)
deriving DecidableEq, Repr

namespace Error

def message : Error → String
  | .driver e => "Database error: " ++ e.message
  | .config m => "Configuration error: " ++ m

def chain : Error → List String
  | .driver e => ("Database error: " ++ e.message) :: e.message :: e.causes
  | .config m => ["Configuration error: " ++ m]

def failure : Error → Storage.Failure
  | .driver (.configuration m _) => .unavailable ("Invalid connection settings: " ++ m)
  | .driver (.database m) => .query m
  | .driver e => if e.isConnectivity then .unavailable e.message else .internal e.message
  | .config m => .internal ("Configuration error: " ++ m)

end Error
end Rostering.Postgres
