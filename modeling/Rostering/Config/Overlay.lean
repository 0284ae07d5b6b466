import Rostering.Config.KeyPath
import Rostering.Toml.Scalar

namespace Rostering.Config

inductive Value where
  | nothing
  | text (value : String)
  | integer (value : Int)
  | float (value : Number.Double)
  | flag (value : Bool)
  | list (items : List Value)
  | table (entries : List (String × Value))

abbrev Entries := List (String × Value)

namespace Entries

def get? (name : String) (entries : Entries) : Option Value :=
  (entries.find? (fun entry => entry.1 = name)).map (·.2)

def set (name : String) (value : Value) : Entries → Entries
  | [] => [(name, value)]
  | (n, v) :: rest => if n = name then (n, value) :: rest else (n, v) :: set name value rest

end Entries

namespace Value

mutual

def ofToml : Toml.Value → Value
  | .text s => .text s
  | .integer n => .integer n
  | .float x => .float x
  | .flag b => .flag b
  | .moment s => .text s
  | .array items => .list (listOfToml items)
  | .table entries => .table (entriesOfToml entries)

def listOfToml : List Toml.Value → List Value
  | [] => []
  | v :: vs => ofToml v :: listOfToml vs

def entriesOfToml : List (String × Toml.Value) → List (String × Value)
  | [] => []
  | (name, v) :: rest => (name, ofToml v) :: entriesOfToml rest

end

def entries : Value → Entries
  | .table entries => entries
  | _ => []

def items : Value → List Value
  | .list items => items
  | _ => []

mutual

def laidOver (there : Value) : Value → Value
  | .table added => .table (withEntries there.entries added)
  | value => value

def withEntries (entries : Entries) : List (String × Value) → Entries
  | [] => entries
  | (name, value) :: rest =>
      withEntries (entries.set name (laidOver ((entries.get? name).getD .nothing) value)) rest

end

def grown (index : Int) (items : List Value) : List Value × Nat :=
  match index with
  | .ofNat n => (items ++ List.replicate (n + 1 - items.length) .nothing, n)
  | .negSucc n =>
      if n < items.length then (items, items.length - (n + 1))
      else (List.replicate (n + 1 - items.length) .nothing ++ items, 0)

def put (value : Value) : List Step → Value → Value
  | [], there => laidOver there value
  | .name name :: steps, there =>
      let entries := there.entries
      .table (entries.set name (put value steps ((entries.get? name).getD .nothing)))
  | .index index :: steps, there =>
      let (items, place) := grown index there.items
      .list (items.set place (put value steps (items[place]?.getD .nothing)))

end Value

def Entries.put (path : KeyPath) (value : Value) (entries : Entries) : Entries :=
  entries.set path.root (value.put path.steps ((entries.get? path.root).getD .nothing))

def Entries.overlay (settings : List (String × Value)) (entries : Entries) : Entries :=
  settings.foldl (fun entries setting => entries.put (KeyPath.read setting.1) setting.2) entries

end Rostering.Config
