import Rostering.Number.Decimal

namespace Rostering

inductive Json where
  | null
  | bool (value : Bool)
  | int (value : Int)
  | double (value : Number.Double)
  | str (value : String)
  | arr (items : List Json)
  | obj (fields : List (String × Json))
deriving BEq, Repr

abbrev Fields := List (String × Json)

namespace Fields

def set (name : String) (value : Json) : Fields → Fields
  | [] => [(name, value)]
  | (n, v) :: rest => if n = name then (n, value) :: rest else (n, v) :: set name value rest

def get? (name : String) (fields : Fields) : Option Json :=
  (fields.find? (fun field => field.1 = name)).map (·.2)

def collect (pairs : List (String × Json)) : Fields :=
  pairs.foldl (fun fields pair => set pair.1 pair.2 fields) []

end Fields

namespace Json

def get? (name : String) : Json → Option Json
  | .obj fields => Fields.get? name fields
  | _ => none

def given? (name : String) (json : Json) : Option Json :=
  match json.get? name with
  | some .null => none
  | value => value

def text? : Json → Option String
  | .str value => some value
  | _ => none

def bool? : Json → Option Bool
  | .bool value => some value
  | _ => none

def int? : Json → Option Int
  | .int value => some value
  | _ => none

def nat? : Json → Option Nat
  | .int (.ofNat n) => some n
  | _ => none

def items? : Json → Option (List Json)
  | .arr items => some items
  | _ => none

def fields? : Json → Option Fields
  | .obj fields => some fields
  | _ => none

def isStructure : Json → Bool
  | .arr _ => true
  | .obj _ => true
  | _ => false

def lowerHex (n : Nat) : Char := Char.ofNat (if n < 10 then 48 + n else 87 + n)

def escapeChar (c : Char) : List Char :=
  if c = '"' then ['\\', '"']
  else if c = '\\' then ['\\', '\\']
  else if c = '\x08' then ['\\', 'b']
  else if c = '\x0c' then ['\\', 'f']
  else if c = '\n' then ['\\', 'n']
  else if c = '\r' then ['\\', 'r']
  else if c = '\t' then ['\\', 't']
  else if c.toNat < 0x20 then
    ['\\', 'u', '0', '0', lowerHex (c.toNat / 16), lowerHex (c.toNat % 16)]
  else [c]

def quoteChars (cs : List Char) : List Char := '"' :: cs.flatMap escapeChar ++ ['"']

mutual

def chars : Json → List Char
  | .null => "null".toList
  | .bool true => "true".toList
  | .bool false => "false".toList
  | .int n => Text.intDigits n
  | .double d => d.jsonText.toList
  | .str s => quoteChars s.toList
  | .arr items => '[' :: (itemChars items ++ [']'])
  | .obj fields => '\x7b' :: (fieldChars fields ++ ['\x7d'])

def itemChars : List Json → List Char
  | [] => []
  | [item] => chars item
  | item :: next :: rest => chars item ++ ',' :: itemChars (next :: rest)

def fieldChars : List (String × Json) → List Char
  | [] => []
  | [(name, value)] => quoteChars name.toList ++ ':' :: chars value
  | (name, value) :: next :: rest =>
      quoteChars name.toList ++ ':' :: (chars value ++ ',' :: fieldChars (next :: rest))

end

def compact (json : Json) : String := String.ofList json.chars

end Json
end Rostering
