import Rostering.Json.Value
import Rostering.Text.Bytes
import Rostering.Text.Integer

namespace Rostering.Json

def isSpace (c : Char) : Bool := c == ' ' || c == '\t' || c == '\n' || c == '\r'

def skipSpace (cs : List Char) : List Char := cs.dropWhile isSpace

def absorb : Nat → List Char → Nat × List Char
  | significand, [] => (significand, [])
  | significand, c :: cs =>
      let next := significand * 10 + (c.toNat - 48)
      if next < Text.u64Limit then absorb next cs else (significand, c :: cs)

open Number (Double)

def scale : Nat → Double → Int → Option Double
  | 0, _, _ => none
  | steps + 1, value, exponent =>
      if exponent.natAbs ≤ 308 then
        if 0 ≤ exponent then
          match value.mul (Double.tenTo exponent.toNat) with
          | .infinite _ => none
          | product => some product
        else some (value.div (Double.tenTo exponent.natAbs))
      else if value.isZero then some value
      else if 0 ≤ exponent then none
      else scale steps (value.div (Double.tenTo 308)) (exponent + 308)

def doubleOf (negative : Bool) (significand : Nat) (exponent : Int) : Option Json :=
  (scale 8 (Double.ofNat significand) exponent).map fun d =>
    .double (if negative then d.neg else d)

def readPower (negative : Bool) (significand : Nat) (exponent : Int) (cs : List Char) :
    Option (Json × List Char) :=
  let (down, body) := match cs with
    | '+' :: rest => (false, rest)
    | '-' :: rest => (true, rest)
    | _ => (false, cs)
  let power := body.takeWhile Char.isDigit
  let rest := body.dropWhile Char.isDigit
  if power.isEmpty then none
  else
    let n := Nat.ofDigitChars 10 power 0
    if n < 2147483648 then
      (doubleOf negative significand (if down then exponent - n else exponent + n)).map (·, rest)
    else if significand ≠ 0 ∧ !down then none
    else some (.double (.finite negative 0), rest)

def readFraction (negative : Bool) (significand : Nat) (exponent : Int) (cs : List Char) :
    Option (Json × List Char) :=
  match cs with
  | '.' :: body =>
      let part := body.takeWhile Char.isDigit
      let rest := body.dropWhile Char.isDigit
      let (longer, unread) := absorb significand part
      let exponent := exponent - (part.length - unread.length : Nat)
      if part.isEmpty then none
      else match rest with
        | 'e' :: power => readPower negative longer exponent power
        | 'E' :: power => readPower negative longer exponent power
        | _ => (doubleOf negative longer exponent).map (·, rest)
  | 'e' :: power => readPower negative significand exponent power
  | 'E' :: power => readPower negative significand exponent power
  | _ => (doubleOf negative significand exponent).map (·, cs)

def continuesNumber : List Char → Bool
  | '.' :: _ => true
  | 'e' :: _ => true
  | 'E' :: _ => true
  | _ => false

def readMagnitude (negative : Bool) (cs : List Char) : Option (Json × List Char) :=
  let whole := cs.takeWhile Char.isDigit
  let rest := cs.dropWhile Char.isDigit
  let (significand, unread) := absorb 0 whole
  if whole.isEmpty ∨ (whole.head? = some '0' ∧ whole.length ≠ 1) then none
  else if unread.isEmpty ∧ !continuesNumber rest then
    if !negative then some (.int significand, rest)
    else if significand = 0 ∨ Text.i64Limit < significand then
      some (.double (Double.ofNat significand).neg, rest)
    else some (.int (-(significand : Int)), rest)
  else readFraction negative significand unread.length rest

def readNumber (cs : List Char) : Option (Json × List Char) :=
  match cs with
  | '-' :: rest => readMagnitude true rest
  | _ => readMagnitude false cs

inductive StringMode where
  | text
  | escape
  | unit (due value : Nat)
  | secondMark (high : Nat)
  | secondLetter (high : Nat)
  | secondUnit (high due value : Nat)
deriving DecidableEq, Repr

def simpleEscape? (c : Char) : Option Char :=
  if c = '"' ∨ c = '\\' ∨ c = '/' then some c
  else if c = 'b' then some '\x08'
  else if c = 'f' then some '\x0c'
  else if c = 'n' then some '\n'
  else if c = 'r' then some '\r'
  else if c = 't' then some '\t'
  else none

def readString : StringMode → List Char → Option (List Char × List Char)
  | _, [] => none
  | .text, c :: cs =>
      if c = '"' then some ([], cs)
      else if c = '\\' then readString .escape cs
      else if c.toNat < 0x20 then none
      else (readString .text cs).map fun (s, rest) => (c :: s, rest)
  | .escape, c :: cs =>
      if c = 'u' then readString (.unit 4 0) cs
      else match simpleEscape? c with
        | some e => (readString .text cs).map fun (s, rest) => (e :: s, rest)
        | none => none
  | .unit due value, c :: cs =>
      match Text.hexValue? c with
      | none => none
      | some d =>
          let value := value * 16 + d
          if 1 < due then readString (.unit (due - 1) value) cs
          else if 0xD800 ≤ value ∧ value ≤ 0xDBFF then readString (.secondMark value) cs
          else if 0xDC00 ≤ value ∧ value ≤ 0xDFFF then none
          else (readString .text cs).map fun (s, rest) => (Char.ofNat value :: s, rest)
  | .secondMark high, c :: cs =>
      if c = '\\' then readString (.secondLetter high) cs else none
  | .secondLetter high, c :: cs =>
      if c = 'u' then readString (.secondUnit high 4 0) cs else none
  | .secondUnit high due value, c :: cs =>
      match Text.hexValue? c with
      | none => none
      | some d =>
          let value := value * 16 + d
          if 1 < due then readString (.secondUnit high (due - 1) value) cs
          else if 0xDC00 ≤ value ∧ value ≤ 0xDFFF then
            let point := 0x10000 + (high - 0xD800) * 0x400 + (value - 0xDC00)
            (readString .text cs).map fun (s, rest) => (Char.ofNat point :: s, rest)
          else none

def readItems (value : List Char → Option (Json × List Char)) :
    Nat → List Char → Option (List Json × List Char)
  | 0, _ => none
  | fuel + 1, cs =>
      match value (skipSpace cs) with
      | none => none
      | some (item, rest) =>
          match skipSpace rest with
          | ',' :: more =>
              (readItems value fuel more).map fun (items, rest) => (item :: items, rest)
          | ']' :: rest => some ([item], rest)
          | _ => none

def readFields (value : List Char → Option (Json × List Char)) :
    Nat → List Char → Option (List (String × Json) × List Char)
  | 0, _ => none
  | fuel + 1, cs =>
      match skipSpace cs with
      | '"' :: cs =>
          match readString .text cs with
          | none => none
          | some (name, rest) =>
              match skipSpace rest with
              | ':' :: rest =>
                  match value (skipSpace rest) with
                  | none => none
                  | some (item, rest) =>
                      let field := (String.ofList name, item)
                      match skipSpace rest with
                      | ',' :: more =>
                          (readFields value fuel more).map fun (fields, rest) =>
                            (field :: fields, rest)
                      | '\x7d' :: rest => some ([field], rest)
                      | _ => none
              | _ => none
      | _ => none

def keyword? (word : String) (value : Json) (cs : List Char) : Option (Json × List Char) :=
  if word.toList.isPrefixOf cs then some (value, cs.drop word.length) else none

def readScalar (cs : List Char) : Option (Json × List Char) :=
  match cs with
  | '"' :: rest => (readString .text rest).map fun (s, rest) => (.str (String.ofList s), rest)
  | 'n' :: _ => keyword? "null" .null cs
  | 't' :: _ => keyword? "true" (.bool true) cs
  | 'f' :: _ => keyword? "false" (.bool false) cs
  | _ => readNumber cs

def readValue : Nat → List Char → Option (Json × List Char)
  | 0, cs => readScalar cs
  | depth + 1, cs =>
      match cs with
      | '[' :: rest =>
          match skipSpace rest with
          | ']' :: rest => some (.arr [], rest)
          | rest => (readItems (readValue depth) rest.length rest).map fun (items, rest) =>
              (.arr items, rest)
      | '\x7b' :: rest =>
          match skipSpace rest with
          | '\x7d' :: rest => some (.obj [], rest)
          | rest => (readFields (readValue depth) rest.length rest).map fun (fields, rest) =>
              (.obj (Fields.collect fields), rest)
      | _ => readScalar cs

def maxDepth : Nat := 127

def parseChars (cs : List Char) : Option Json :=
  match readValue maxDepth (skipSpace cs) with
  | some (json, rest) => if (skipSpace rest).isEmpty then some json else none
  | none => none

def parse (s : String) : Option Json := parseChars s.toList

end Rostering.Json
