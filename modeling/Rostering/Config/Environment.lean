import Rostering.Config.Overlay
import Rostering.Number.Decimal
import Rostering.Text.Basic

namespace Rostering.Config

abbrev Environment := List (String × String)

def Environment.get? (name : String) (env : Environment) : Option String :=
  (env.find? (fun e => e.1 = name)).map (·.2)

def settingMark : List Char := "oneroster__".toList

def settingKey? (name : String) : Option String :=
  let cs := name.toList.map Text.lowerToAscii
  if settingMark.isPrefixOf cs then
    some (String.ofList
      (List.intercalate ['.'] (Text.splitOn ['_', '_'] (cs.drop settingMark.length))))
  else none

def valueOf (text : String) : Value :=
  let word := Text.lowerAscii text
  if word = "true" then .flag true
  else if word = "false" then .flag false
  else
    match Text.i64? text.toList with
    | some n => .integer n
    | none =>
        match Number.Double.read? text with
        | some x => .float x
        | none => .text text

def Environment.settings (env : Environment) : List (String × Value) :=
  env.filterMap fun (name, text) => (settingKey? name).map (·, valueOf text)

inductive Found where
  | nothing
  | unreadable
  | file (text : String)
deriving DecidableEq, Repr

structure Folder where
  files : List (List String × String)
deriving DecidableEq, Repr

namespace Folder

def names (path : String) : List String :=
  (Text.pieces (· == '/') path.toList).map String.ofList

def isIdle (name : String) : Bool := name = "" || name = "."

def ofFiles (files : List (String × String)) : Folder :=
  ⟨files.map fun file => ((names file.1).filter fun name => !isIdle name, file.2)⟩

def file? (folder : Folder) (place : List String) : Option String :=
  (folder.files.find? (fun file => file.1 = place)).map (·.2)

def isDirectory (folder : Folder) (place : List String) : Bool :=
  place.isEmpty || folder.files.any fun file => place ≠ file.1 && place.isPrefixOf file.1

def stands (folder : Folder) (place : List String) : Found :=
  if folder.isDirectory place then .unreadable
  else
    match folder.file? place with
    | some text => .file text
    | none => .nothing

def outside (path : List String) : Found :=
  if path.all fun name => isIdle name || name = ".." then .unreadable else .nothing

def follow (folder : Folder) : List String → List String → Found
  | place, [] => folder.stands place
  | place, name :: rest =>
      if folder.isDirectory place = false then .nothing
      else if isIdle name then folder.follow place rest
      else if name = ".." then
        if place.isEmpty then outside rest else folder.follow place.dropLast rest
      else folder.follow (place ++ [name]) rest

def lookUp (folder : Folder) (path : String) : Found :=
  if path.isEmpty then .nothing
  else if path.toList.head? = some '/' then outside (names path)
  else folder.follow [] (names path)

end Folder
end Rostering.Config
