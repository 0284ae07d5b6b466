import Rostering.Query.Filter
import Rostering.Text.Basic
import Rostering.Text.Bytes
import Rostering.Text.Integer

namespace Rostering.Query

inductive Selection where
  | everything
  | listed (fields : List String)
deriving DecidableEq, Repr

namespace Selection

def parse (raw : String) : Selection :=
  if Text.trimmed raw = "*" then .everything
  else match Text.commaList raw with
    | [] => .everything
    | fields => .listed fields

def resolve (selectable : List String) : Selection → Except Fault (List String)
  | .everything => .ok selectable
  | .listed fields =>
      match fields.filter (· ∉ selectable) with
      | [] => .ok (Text.firstOccurrences fields)
      | invalid => .error (.selection invalid selectable)

def asked (selectable : List String) : Selection → List String
  | .everything => selectable
  | .listed fields => fields

end Selection

structure Resolution where
  fields : List String
  invalid : List String
deriving DecidableEq, Repr

namespace Resolution

def read (selectable : List String) (r : Resolution) (name : String) : Resolution :=
  match selectable.find? (fun known => known = name) with
  | some known => { r with fields := Text.pushNew r.fields known }
  | none => { r with invalid := r.invalid ++ [name] }

def ofNames (selectable names : List String) : Resolution := names.foldl (read selectable) ⟨[], []⟩

def outcome (selectable : List String) (r : Resolution) : Except Fault (List String) :=
  if r.invalid.isEmpty then .ok r.fields else .error (.selection r.invalid selectable)

end Resolution

inductive Direction where
  | ascending | descending
deriving DecidableEq, Repr

namespace Direction

def parse (raw : String) : Direction :=
  if Text.sameIgnoringCase (Text.trimmed raw) "desc" then .descending else .ascending

def sql : Direction → String
  | .ascending => "ASC"
  | .descending => "DESC"

end Direction

structure PageLimits where
  default : Nat
  max : Option Nat
deriving DecidableEq, Repr

def usualLimit : Nat := 10

def PageLimits.usual : PageLimits := ⟨usualLimit, none⟩

structure Request where
  limit : Nat
  offset : Nat
  sort : List String
  direction : Direction
  selection : Selection
  filter : String
deriving DecidableEq, Repr

namespace Request

def usual : Request := ⟨usualLimit, 0, [], .ascending, .everything, ""⟩

def readLimit (default : Nat) (value : String) : Nat :=
  match Text.u64? (Text.trim value.toList) with
  | some (n + 1) => n + 1
  | _ => default

def readOffset (value : String) : Nat := (Text.u64? (Text.trim value.toList)).getD 0

def withParameter (limits : PageLimits) (request : Request) (name value : String) : Request :=
  match name with
  | "limit" => { request with limit := readLimit limits.default value }
  | "offset" => { request with offset := readOffset value }
  | "sort" => { request with sort := Text.commaList value }
  | "orderBy" => { request with direction := Direction.parse value }
  | "fields" => { request with selection := Selection.parse value }
  | "filter" => { request with filter := value }
  | _ => request

def capped (max : Option Nat) (request : Request) : Request :=
  match max with
  | some max => { request with limit := min request.limit max }
  | none => request

def ofQuery (limits : PageLimits) (query : String) : Request :=
  let start := { usual with limit := limits.default }
  ((Text.formPairs query).foldl (fun r pair => r.withParameter limits pair.1 pair.2) start).capped
    limits.max

end Request
end Rostering.Query
