import Rostering.Calendar.Date
import Rostering.Number.Decimal
import Rostering.Text.Bytes

namespace Rostering.Toml

open Number (Double)

inductive Value where
  | text (value : String)
  | integer (value : Int)
  | float (value : Double)
  | flag (value : Bool)
  | moment (text : String)
  | array (items : List Value)
  | table (entries : List (String × Value))

abbrev Entries := List (String × Value)

namespace Entries

def get? (name : String) (entries : Entries) : Option Value :=
  (entries.find? (fun entry => entry.1 = name)).map (·.2)

end Entries

def ungroup (isDigit : Char → Bool) : Bool → List Char → Option (List Char)
  | afterDigit, [] => if afterDigit then some [] else none
  | afterDigit, c :: cs =>
      if isDigit c then (ungroup isDigit true cs).map (c :: ·)
      else if c = '_' ∧ afterDigit then ungroup isDigit false cs
      else none

def decimalDigits? (cs : List Char) : Option (List Char) := ungroup Char.isDigit false cs

def wholeDigits? (cs : List Char) : Option (List Char) :=
  (decimalDigits? cs).bind fun ds => if ds.head? = some '0' ∧ ds.length ≠ 1 then none else some ds

def splitSign : List Char → Bool × List Char
  | '+' :: cs => (false, cs)
  | '-' :: cs => (true, cs)
  | cs => (false, cs)

def inRange (n : Int) : Option Value :=
  if -(Text.i64Limit : Int) ≤ n ∧ n < Text.i64Limit then some (.integer n) else none

def basedInteger? (base : Nat) (cs : List Char) : Option Value := do
  let isDigit (c : Char) : Bool := (Text.hexValue? c).any (· < base)
  let ds ← ungroup isDigit false cs
  inRange ((ds.filterMap Text.hexValue?).foldl (fun n d => n * base + d) 0 : Nat)

def integer? (cs : List Char) : Option Value :=
  match cs with
  | '0' :: 'x' :: ds => basedInteger? 16 ds
  | '0' :: 'o' :: ds => basedInteger? 8 ds
  | '0' :: 'b' :: ds => basedInteger? 2 ds
  | _ => do
      let (negative, body) := splitSign cs
      let ds ← wholeDigits? body
      let n := Nat.ofDigitChars 10 ds 0
      inRange (if negative then -(n : Int) else n)

def isPowerMark (c : Char) : Bool := c == 'e' || c == 'E'

def float? (cs : List Char) : Option Value := do
  let (negative, body) := splitSign cs
  if body = "inf".toList then return .float (.infinite negative)
  else if body = "nan".toList then return .float .nan
  else
    let mantissa := body.takeWhile (fun c => !isPowerMark c)
    let tail := body.dropWhile (fun c => !isPowerMark c)
    let (whole, part) ← match Text.cut? ['.'] mantissa with
      | some (whole, part) => do pure (← wholeDigits? whole, ← decimalDigits? part)
      | none => if tail.isEmpty then none else do pure (← wholeDigits? mantissa, [])
    let power ← match tail with
      | [] => some (0 : Int)
      | _ :: cs => do
          let (down, ds) := splitSign cs
          let n := Nat.ofDigitChars 10 (← decimalDigits? ds) 0
          pure (if down then -(n : Int) else n)
    let digits := Nat.ofDigitChars 10 (whole ++ part) 0
    match Double.ofDecimal negative digits (power - part.length) with
    | .infinite _ => none
    | d => return .float d

def twoDigits? (bound : Nat) (cs : List Char) : Option Nat :=
  if cs.length = 2 then (Text.natural? cs).bind fun n => if n < bound then some n else none
  else none

def localDate? (cs : List Char) : Option (List Char) := do
  match Text.pieces (· == '-') cs with
  | [y, m, d] =>
      if y.length = 4 then
        let date ←
          Calendar.Date.of? (← Text.natural? y) (← twoDigits? 100 m) (← twoDigits? 100 d)
        some date.chars
      else none
  | _ => none

def fractionChars (ds : List Char) : List Char :=
  let kept := ((ds.take 9).reverse.dropWhile (· == '0')).reverse
  '.' :: (if kept.isEmpty then ['0'] else kept)

def fraction? (ds : List Char) : Option (List Char) :=
  if (Text.natural? ds).isSome then some (fractionChars ds) else none

def localTime? (cs : List Char) : Option (List Char) :=
  let (clock, part) := match Text.cut? ['.'] cs with
    | some (clock, ds) => (clock, some ds)
    | none => (cs, none)
  match Text.pieces (· == ':') clock with
  | h :: m :: rest => do
      let _ ← twoDigits? 24 h
      let _ ← twoDigits? 60 m
      match rest, part with
      | [], none => some clock
      | [s], none => do
          let _ ← twoDigits? 61 s
          some clock
      | [s], some ds => do
          let _ ← twoDigits? 61 s
          some (clock ++ (← fraction? ds))
      | _, _ => none
  | _ => none

def offset? (cs : List Char) : Option (List Char) :=
  match cs with
  | ['Z'] => some ['Z']
  | ['z'] => some ['Z']
  | sign :: rest =>
      if sign = '+' ∨ sign = '-' then
        match Text.pieces (· == ':') rest with
        | [h, m] => do
            let hours ← twoDigits? 24 h
            let minutes ← twoDigits? 60 m
            some ((if hours + minutes = 0 then '+' else sign) :: rest)
        | _ => none
      else none
  | [] => none

def isOffsetStart (c : Char) : Bool := c == 'Z' || c == 'z' || c == '+' || c == '-'

def moment? (cs : List Char) : Option Value :=
  match localDate? cs with
  | some date => some (.moment (String.ofList date))
  | none =>
      match localTime? cs with
      | some time => some (.moment (String.ofList time))
      | none => do
          let date ← localDate? (cs.take 10)
          match cs.drop 10 with
          | mark :: rest =>
              if mark = 'T' ∨ mark = 't' ∨ mark = ' ' then
                let time ← localTime? (rest.takeWhile (fun c => !isOffsetStart c))
                let tail := rest.dropWhile (fun c => !isOffsetStart c)
                let offset ← if tail.isEmpty then some [] else offset? tail
                some (.moment (String.ofList (date ++ 'T' :: (time ++ offset))))
              else none
          | [] => none

def isScalarChar (c : Char) : Bool :=
  c.isAlphanum || c == '_' || c == '+' || c == '-' || c == '.' || c == ':'

def takeScalar (cs : List Char) : List Char × List Char :=
  let word := cs.takeWhile isScalarChar
  let rest := cs.dropWhile isScalarChar
  match rest with
  | ' ' :: d :: more =>
      if d.isDigit && (localDate? word).isSome then
        (word ++ ' ' :: (d :: more).takeWhile isScalarChar, (d :: more).dropWhile isScalarChar)
      else (word, rest)
  | _ => (word, rest)

def scalar? (cs : List Char) : Option Value :=
  if cs = "true".toList then some (.flag true)
  else if cs = "false".toList then some (.flag false)
  else ((moment? cs).or (integer? cs)).or (float? cs)

end Rostering.Toml
