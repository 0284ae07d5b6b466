import Rostering.Number.Double
import Rostering.Text.Basic
import Rostering.Text.Integer

namespace Rostering.Number

inductive TieRule where
  | toEven
  | up
deriving DecidableEq, Repr

structure Decimal where
  digits : Nat
  exponent : Int
deriving DecidableEq, Repr

def Decimal.strip : Nat → Decimal → Decimal
  | 0, d => d
  | fuel + 1, d =>
      if d.digits ≠ 0 ∧ d.digits % 10 = 0 then strip fuel ⟨d.digits / 10, d.exponent + 1⟩ else d

def pointPlace (num den : Nat) : Int :=
  if den ≤ num then (Text.digits (num / den)).length
  else 1 - ((Text.digits ((den - 1) / num)).length : Int)

structure Basin where
  low : Nat
  value : Nat
  high : Nat
  den : Nat
  closed : Bool
deriving Repr

def basin (rank : Nat) : Basin :=
  let (significand, exponent) := Double.parts rank
  let low := if significand = pow2 52 ∧ exponent ≠ -1074 then 4 * significand - 1
    else 4 * significand - 2
  let scale := if exponent < 2 then 1 else pow2 (exponent - 2).toNat
  let den := if exponent < 2 then pow2 (2 - exponent).toNat else 1
  ⟨low * scale, 4 * significand * scale, (4 * significand + 2) * scale, den,
    significand % 2 = 0⟩

def Basin.holds (b : Basin) (num den : Nat) : Bool :=
  if b.closed then b.low * den ≤ num * b.den ∧ num * b.den ≤ b.high * den
  else b.low * den < num * b.den ∧ num * b.den < b.high * den

def Basin.decimal? (b : Basin) (tie : TieRule) (length : Nat) : Option Decimal :=
  let exponent := pointPlace b.value b.den - length
  let up := if exponent < 0 then pow10 (-exponent).toNat else 1
  let down := if exponent < 0 then 1 else pow10 exponent.toNat
  let num := b.value * up
  let den := b.den * down
  let q := num / den
  let r := num % den
  let lower := b.holds (q * down) up
  let upper := b.holds ((q + 1) * down) up
  let pickUpper : Bool :=
    if 2 * r < den then false else if den < 2 * r then true
    else match tie with
      | .toEven => q % 2 = 1
      | .up => true
  match lower, upper with
  | false, false => none
  | true, false => some ⟨q, exponent⟩
  | false, true => some ⟨q + 1, exponent⟩
  | true, true => some ⟨if pickUpper then q + 1 else q, exponent⟩

def shortest (tie : TieRule) (rank : Nat) : Decimal :=
  if rank = 0 then ⟨0, 0⟩
  else
    let b := basin rank
    match (List.range 17).findSome? (fun n => b.decimal? tie (n + 1)) with
    | some d => d.strip 20
    | none => ⟨0, 0⟩

def positional (digits : List Char) (place : Int) : List Char × List Char :=
  if place ≤ 0 then (['0'], List.replicate (-place).toNat '0' ++ digits)
  else
    let n := place.toNat
    (digits.take n ++ List.replicate (n - digits.length) '0', digits.drop n)

def signed (negative : Bool) (cs : List Char) : List Char :=
  if negative then '-' :: cs else cs

def Double.jsonText : Double → String
  | .finite negative rank =>
      let d := shortest .toEven rank
      let digits := Text.digits d.digits
      let place : Int := if rank = 0 then 1 else digits.length + d.exponent
      if -4 ≤ place ∧ place ≤ 16 then
        let (whole, part) := positional digits place
        String.ofList (signed negative
          (whole ++ '.' :: (if part.isEmpty then ['0'] else part)))
      else
        let power := place - 1
        let part := digits.drop 1
        String.ofList (signed negative
          (digits.take 1 ++ (if part.isEmpty then [] else '.' :: part) ++ ['e'] ++
            (if power < 0 then '-' else '+') :: Text.digits power.natAbs))
  | _ => "null"

def Double.plainText : Double → String
  | .finite negative rank =>
      let d := shortest .up rank
      let digits := Text.digits d.digits
      let place : Int := if rank = 0 then 1 else digits.length + d.exponent
      let (whole, part) := positional digits place
      String.ofList (signed negative (whole ++ (if part.isEmpty then [] else '.' :: part)))
  | .infinite negative => if negative then "-inf" else "inf"
  | .nan => "NaN"

def readPower : List Char → Option Int
  | '+' :: ds => (Text.natural? ds).map Int.ofNat
  | '-' :: ds => (Text.natural? ds).map fun n => -(n : Int)
  | ds => (Text.natural? ds).map Int.ofNat

def readMagnitude (negative : Bool) (cs : List Char) : Option Double := do
  let isMark (c : Char) : Bool := c == 'e' || c == 'E'
  let mantissa := cs.takeWhile (fun c => !isMark c)
  let power ← match cs.dropWhile (fun c => !isMark c) with
    | [] => some 0
    | _ :: rest => readPower rest
  let (whole, part) := (Text.cut? ['.'] mantissa).getD (mantissa, [])
  let digits ← Text.natural? (whole ++ part)
  return Double.ofDecimal negative digits (power - part.length)

def Double.read? (s : String) : Option Double :=
  let (negative, body) := match s.toList with
    | '+' :: cs => (false, cs)
    | '-' :: cs => (true, cs)
    | cs => (false, cs)
  let word := Text.lowerAscii (String.ofList body)
  if word = "inf" ∨ word = "infinity" then some (.infinite negative)
  else if word = "nan" then some .nan
  else readMagnitude negative body

end Rostering.Number
