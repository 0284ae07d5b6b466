import Rostering.Text.Basic
import Rostering.Text.Bytes
import Rostering.Text.Integer

namespace Rostering.Net

inductive Address where
  | v4 (a b c d : Nat)
  | v6 (groups : List Nat)
deriving DecidableEq, Repr

def anywhere : Address := .v4 0 0 0 0

def byte? (cs : List Char) : Option Nat :=
  if cs.length ≤ 3 ∧ (cs.length = 1 ∨ cs.head? ≠ some '0') then
    (Text.natural? cs).bind fun n => if n < 256 then some n else none
  else none

def readV4 (cs : List Char) : Option (Nat × Nat × Nat × Nat) :=
  match (Text.pieces (· == '.') cs).mapM byte? with
  | some [a, b, c, d] => some (a, b, c, d)
  | _ => none

def group? (cs : List Char) : Option Nat :=
  if cs.isEmpty ∨ 4 < cs.length then none
  else (cs.mapM Text.hexValue?).map fun ds => ds.foldl (fun n d => n * 16 + d) 0

def readGroups : List (List Char) → Option (List Nat)
  | [] => some []
  | [last] =>
      match group? last with
      | some g => some [g]
      | none => (readV4 last).map fun (a, b, c, d) => [a * 256 + b, c * 256 + d]
  | part :: rest => do
      let g ← group? part
      let gs ← readGroups rest
      some (g :: gs)

def readSide (cs : List Char) : Option (List Nat) :=
  if cs.isEmpty then some [] else readGroups (Text.pieces (· == ':') cs)

def readPlainSide (cs : List Char) : Option (List Nat) :=
  if cs.isEmpty then some [] else (Text.pieces (· == ':') cs).mapM group?

def readV6 (cs : List Char) : Option (List Nat) :=
  match Text.cut? [':', ':'] cs with
  | none => (readSide cs).bind fun gs => if gs.length = 8 then some gs else none
  | some (before, after) => do
      let front ← readPlainSide before
      let back ← readSide after
      if front.length + back.length ≤ 7 then
        some (front ++ List.replicate (8 - front.length - back.length) 0 ++ back)
      else none

def Address.read (s : String) : Option Address :=
  match readV4 s.toList with
  | some (a, b, c, d) => some (.v4 a b c d)
  | none => (readV6 s.toList).map .v6

def hexChars (n : Nat) : List Char := Nat.toDigits 16 n

def v4Chars (a b c d : Nat) : List Char :=
  List.intercalate ['.'] [Text.digits a, Text.digits b, Text.digits c, Text.digits d]

def zerosAhead (groups : List Nat) : Nat := (groups.takeWhile (· = 0)).length

def longestZeros : Nat → List Nat → Nat × Nat
  | start, [] => (start, 0)
  | start, g :: gs =>
      let here := zerosAhead (g :: gs)
      let later := longestZeros (start + 1) gs
      if later.2 ≤ here then (start, here) else later

def groupsChars (groups : List Nat) : List Char :=
  List.intercalate [':'] (groups.map hexChars)

def v6Chars (groups : List Nat) : List Char :=
  match groups with
  | [0, 0, 0, 0, 0, 0xffff, high, low] =>
      "::ffff:".toList ++ v4Chars (high / 256) (high % 256) (low / 256) (low % 256)
  | _ =>
      let (start, length) := longestZeros 0 groups
      if length < 2 then groupsChars groups
      else
        groupsChars (groups.take start) ++ [':', ':'] ++
          groupsChars (groups.drop (start + length))

def socketText (address : Address) (port : Nat) : String :=
  let host := match address with
    | .v4 a b c d => v4Chars a b c d
    | .v6 groups => '[' :: (v6Chars groups ++ [']'])
  String.ofList (host ++ ':' :: Text.digits port)

inductive Link where
  | connected
  | refused
  | unreachable
deriving DecidableEq, Repr

inductive Target where
  | socket
  | host (name : String)
deriving DecidableEq, Repr

def thisHost : String := "localhost"

def isKnownHost (name : String) : Bool :=
  Text.sameIgnoringCase name thisHost || name.toList.head? = some '[' || (Address.read name).isSome

def Target.absence : Target → String
  | .socket => "No such file or directory (os error 2)"
  | .host name =>
      if isKnownHost name then "Network is unreachable (os error 101)"
      else "failed to lookup address information: Temporary failure in name resolution"

end Rostering.Net
