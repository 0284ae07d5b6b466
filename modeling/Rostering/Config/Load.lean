import Rostering.Config.Environment
import Rostering.Config.Overlay
import Rostering.Config.Read
import Rostering.Config.Settings
import Rostering.Toml.Read

namespace Rostering.Config

open Number (Double)

def unsignedOf (x : Double) : Nat :=
  match x with
  | .nan => 0
  | .infinite negative => if negative then 0 else Text.u64Limit - 1
  | .finite _ _ => min ((x.roundAway.getD 0).toNat) (Text.u64Limit - 1)

def trueWords : List String := ["true", "on", "yes"]

def falseWords : List String := ["false", "off", "no"]

def looseNumber (value : Value) : Option Nat :=
  match value with
  | .integer n => if 0 ≤ n then some n.toNat else none
  | .float x => some (unsignedOf x)
  | .flag b => some (if b then 1 else 0)
  | .text s =>
      let word := Text.lowerAscii s
      if word ∈ trueWords then some 1
      else if word ∈ falseWords then some 0
      else Text.u64? s.toList
  | _ => none

def looseFlag (value : Value) : Option Bool :=
  match value with
  | .integer n => some (n ≠ 0)
  | .float x => some (!x.isZero)
  | .flag b => some b
  | .text s =>
      let word := Text.lowerAscii s
      if word = "1" ∨ word ∈ trueWords then some true
      else if word = "0" ∨ word ∈ falseWords then some false
      else none
  | _ => none

def looseText (value : Value) : Option String :=
  match value with
  | .text s => some s
  | .integer n => some (Text.intText n)
  | .float x => some x.plainText
  | .flag b => some (if b then "true" else "false")
  | _ => none

def looseSource : Source Value where
  part _ value :=
    match value with
    | .table entries => some (.named fun name => Entries.get? name entries)
    | .list values => some (.listed values)
    | _ => none
  text := looseText
  number bound value := (looseNumber value).bind fun n => if n < bound then some n else none
  flag := looseFlag
  choice value :=
    match value with
    | .text name => some name
    | .table [(name, _)] => some name
    | _ => none
  isNull value :=
    match value with
    | .nothing => true
    | _ => false

inductive LoadFault where
  | sources
  | fields
  | invalid (message : String)
deriving DecidableEq, Repr

def LoadFault.message : LoadFault → String
  | .sources => "config build error"
  | .fields => "config deserialize error"
  | .invalid message => message

def fileName (path : List Char) : List Char :=
  (((path.reverse.dropWhile (· == '/')).takeWhile (· != '/'))).reverse

def extension? (path : String) : Option String :=
  match Text.cutLast? '.' (fileName path.toList) with
  | some (before, after) => if before.isEmpty then none else some (String.ofList after)
  | none => none

def readEntries (text : String) : Except LoadFault Entries :=
  match Toml.read (String.ofList (Text.dropByteOrderMark text.toList)) with
  | some entries => .ok (Value.entriesOfToml entries)
  | none => .error .sources

def fileBeside (path : String) : String :=
  String.ofList ((path.toList.reverse.dropWhile (· == '/')).reverse ++ ".toml".toList)

def fileEntries (lookUp : String → Found) (path : String) : Except LoadFault Entries :=
  match lookUp path with
  | .nothing => .ok []
  | .file text => if extension? path = some "toml" then readEntries text else .error .sources
  | .unreadable =>
      match lookUp (fileBeside path) with
      | .file text => readEntries text
      | _ => .error .sources

def load (lookUp : String → Found) (path : String) (env : Environment) :
    Except LoadFault AppConfig := do
  let file ← fileEntries lookUp path
  let settings := Entries.overlay env.settings (Entries.overlay file [])
  match AppConfig.read looseSource (.table settings) with
  | none => throw .fields
  | some config =>
      match config.fault? with
      | some message => throw (.invalid message)
      | none => return config

theorem load_valid {lookUp : String → Found} {path : String} {env : Environment} {c : AppConfig}
    (h : load lookUp path env = .ok c) : c.Valid := by
  unfold load at h
  cases hfile : fileEntries lookUp path with
  | error fault => rw [hfile] at h; cases h
  | ok entries =>
      rw [hfile] at h
      simp only [bind, Except.bind] at h
      split at h
      · cases h
      · split at h
        · cases h
        · rename_i hfault
          cases h
          exact hfault

end Rostering.Config
