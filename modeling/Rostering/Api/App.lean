import Rostering.Api.Problem
import Rostering.Service

namespace Rostering.Api

open Http (Request Response)
open Query (PageLimits)
open Roster (Endpoint Grant)
open Storage (Statement)

def basePath : String := "/ims/oneroster/rostering/v1p2"

def version : String := "0.1.0"

structure App where
  service : Service
  enforceScopes : Bool
  limits : PageLimits
  baseUrl : Option String

inductive Route where
  | discovery
  | alive
  | health
  | collection (endpoint : List Char)
  | record (endpoint id : List Char)
deriving DecidableEq, Repr

def routeBelow (cs : List Char) : Option Route :=
  match Text.pieces (· == '/') cs with
  | [endpoint] => if endpoint.isEmpty then none else some (.collection endpoint)
  | [endpoint, id] =>
      if endpoint.isEmpty || id.isEmpty then none else some (.record endpoint id)
  | _ => none

def route? (path : String) : Option Route :=
  if path = "/" then some .discovery
  else if path = "/healthz" then some .alive
  else if path = "/health-check" then some .health
  else
    let base := basePath.toList ++ ['/']
    if base.isPrefixOf path.toList then routeBelow (path.toList.drop base.length) else none

structure Handling where
  executed : List Statement
  response : Option Response

def Handling.immediate (response : Response) : Handling := ⟨[], some response⟩

def decodeSegment (cs : List Char) : Option String :=
  (Text.Utf8.strict? (Text.unescape cs)).map String.ofList

def badSegment (name : String) : Response :=
  ⟨400, [("content-type", "text/plain; charset=utf-8")],
    "Invalid URL: Invalid UTF-8 in \x60" ++ name ++ "\x60"⟩

def isVisible (s : String) : Bool :=
  s.toList.all fun c => c == '\t' || (0x20 ≤ c.toNat && c.toNat < 0x7F)

def baseAddress (app : App) (request : Request) : String :=
  match app.baseUrl with
  | some url => url
  | none =>
      match Http.header? "host" request.headers with
      | some host => if isVisible host then "http://" ++ host else ""
      | none => ""

def discoveryBody (app : App) (request : Request) : Json :=
  let base := ((baseAddress app request).toList.reverse.dropWhile (· == '/')).reverse
  .obj [("version", .str version),
    ("urls", .obj [("dataManagementApi", .str (String.ofList base ++ basePath ++ "/"))])]

def authorized (app : App) (grant : Option Grant) (endpoint : Endpoint) : Bool :=
  !app.enforceScopes || (match grant with
    | some grant => grant.allows endpoint.resource
    | none => false)

def access (app : App) (grant : Option Grant) (name : String) : Except Problem Endpoint :=
  match Endpoint.ofPath? name with
  | none => .error .notFound
  | some endpoint =>
      if authorized app grant endpoint then .ok endpoint
      else .error (.forbidden (Roster.scopeMessage endpoint.resource))

def respond {α : Type} (run : Run α) (answer : α → Response) : Handling :=
  ⟨run.executed, run.answer.map fun
    | .ok value => answer value
    | .error fault => (Problem.ofFault fault).response⟩

def listRecords (app : App) (grant : Option Grant) (name : String) (query : Option String) :
    Handling :=
  match access app grant name with
  | .error problem => .immediate problem.response
  | .ok endpoint =>
      let request := Query.Request.ofQuery app.limits (query.getD "")
      respond (app.service.queryMany endpoint request) fun records =>
        .json 200 (Shape.wrapMany endpoint records)

def readRecord (app : App) (grant : Option Grant) (name id : String) : Handling :=
  match access app grant name with
  | .error problem => .immediate problem.response
  | .ok endpoint =>
      respond (app.service.queryOne endpoint id) fun
        | some record => .json 200 (Shape.wrapOne endpoint record)
        | none => Problem.notFound.response

def healthHandling (app : App) : Handling :=
  ⟨[], app.service.executor.ping.map fun
    | .ok () => .json 200 (.obj [("status", .str "pass")])
    | .error _ =>
        .json 503 (.obj [("status", .str "fail"), ("error", .str "database unreachable")])⟩

def handle (app : App) (request : Request) : Route → Handling
  | .discovery => .immediate (.json 200 (discoveryBody app request))
  | .alive => .immediate (.json 200 (.obj [("status", .str "ok")]))
  | .health => healthHandling app
  | .collection endpoint =>
      match decodeSegment endpoint with
      | none => .immediate (badSegment "endpoint")
      | some name => listRecords app request.grant name request.target.query
  | .record endpoint id =>
      match decodeSegment endpoint, decodeSegment id with
      | none, _ => .immediate (badSegment "endpoint")
      | some _, none => .immediate (badSegment "sourced_id")
      | some name, some id => readRecord app request.grant name id

def readMethods : String := "GET,HEAD"

def dispatch (app : App) (request : Request) : List Statement × Response :=
  let route := route? request.target.path
  let allowed (r : Response) : Response :=
    if route.isSome then r.withHeader "allow" readMethods else r
  if request.method = "OPTIONS" then
    ([], (allowed (.empty 200)).withHeader "access-control-allow-methods" "*"
      |>.withHeader "access-control-allow-headers" "*")
  else
    let handling := match route with
      | none => Handling.immediate Problem.notFound.response
      | some route =>
          if request.method = "GET" ∨ request.method = "HEAD" then handle app request route
          else .immediate (allowed (.empty 405))
    let response := handling.response.getD (.empty 408)
    (handling.executed, if request.method = "HEAD" then { response with body := "" } else response)

def requestIdHeader : String := "x-request-id"

def exchange (app : App) (fresh : String) (request : Request) : List Statement × Response :=
  let (executed, response) := dispatch app request
  (executed, (response.withHeader "access-control-allow-origin" "*").withHeader requestIdHeader
    ((Http.header? requestIdHeader request.headers).getD fresh))

end Rostering.Api
