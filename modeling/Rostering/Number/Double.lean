namespace Rostering.Number

abbrev pow2 (n : Nat) : Nat := Nat.pow 2 n

abbrev pow10 (n : Nat) : Nat := Nat.pow 10 n

structure Format where
  fraction : Nat
  least : Int
deriving DecidableEq, Repr

def binary64 : Format := ⟨52, -1074⟩

def binary32 : Format := ⟨23, -149⟩

def nearestNat (num den : Nat) : Nat :=
  let q := num / den
  let r := num % den
  if 2 * r < den then q else if den < 2 * r then q + 1 else q + q % 2

def Format.round (f : Format) (num den : Nat) : Nat × Int :=
  if num = 0 then (0, f.least)
  else
    let guess : Int := (Nat.log2 num : Int) - (Nat.log2 den : Int)
    let below : Bool :=
      if guess < 0 then num * pow2 (-guess).toNat < den else num < den * pow2 guess.toNat
    let exponent := max f.least ((if below then guess - 1 else guess) - f.fraction)
    let multiple :=
      if exponent < 0 then nearestNat (num * pow2 (-exponent).toNat) den
      else nearestNat num (den * pow2 exponent.toNat)
    (multiple, exponent)

/-- A 64-bit floating-point number. The rank of a finite one counts the magnitudes from zero up. -/
inductive Double where
  | finite (negative : Bool) (rank : Nat)
  | infinite (negative : Bool)
  | nan
deriving DecidableEq, Repr

namespace Double

def rankLimit : Nat := 2047 * pow2 52

def ofRatio (negative : Bool) (num den : Nat) : Double :=
  let (multiple, exponent) := binary64.round num den
  let rank := (exponent + 1074).toNat * pow2 52 + multiple
  if rank < rankLimit then .finite negative rank else .infinite negative

def ofNat (n : Nat) : Double := ofRatio false n 1

def ofInt (n : Int) : Double := ofRatio (n < 0) n.natAbs 1

def parts (rank : Nat) : Nat × Int :=
  if rank < pow2 52 then (rank, -1074)
  else (pow2 52 + rank % pow2 52, (rank / pow2 52 : Nat) - 1075)

def ratio (rank : Nat) : Nat × Nat :=
  let (significand, exponent) := parts rank
  if exponent < 0 then (significand, pow2 (-exponent).toNat)
  else (significand * pow2 exponent.toNat, 1)

def ofDecimal (negative : Bool) (digits : Nat) (exponent : Int) : Double :=
  let size : Int := (Nat.toDigits 10 digits).length + exponent
  if digits = 0 ∨ size < -400 then .finite negative 0
  else if 400 < size then .infinite negative
  else if exponent < 0 then ofRatio negative digits (pow10 (-exponent).toNat)
  else ofRatio negative (digits * pow10 exponent.toNat) 1

def tenTo (n : Nat) : Double := ofDecimal false 1 n

def isNegative : Double → Bool
  | .finite negative _ => negative
  | .infinite negative => negative
  | .nan => false

def isZero : Double → Bool
  | .finite _ rank => rank == 0
  | _ => false

def neg : Double → Double
  | .finite negative rank => .finite (!negative) rank
  | .infinite negative => .infinite (!negative)
  | .nan => .nan

def mul : Double → Double → Double
  | .finite n a, .finite m b =>
      let (p, q) := ratio a
      let (r, s) := ratio b
      ofRatio (n != m) (p * r) (q * s)
  | .nan, _ => .nan
  | _, .nan => .nan
  | x, y =>
      if x.isZero || y.isZero then .nan else .infinite (x.isNegative != y.isNegative)

def div : Double → Double → Double
  | .finite n a, .finite m b =>
      let (p, q) := ratio a
      let (r, s) := ratio b
      if b = 0 then (if a = 0 then .nan else .infinite (n != m))
      else ofRatio (n != m) (p * s) (q * r)
  | .nan, _ => .nan
  | _, .nan => .nan
  | .infinite _, .infinite _ => .nan
  | .infinite n, .finite m _ => .infinite (n != m)
  | .finite n _, .infinite m => .finite (n != m) 0

def add : Double → Double → Double
  | .finite n a, .finite m b =>
      if a = 0 ∧ b = 0 then .finite (n && m) 0
      else
        let (p, q) := ratio a
        let (r, s) := ratio b
        let left : Int := (if n then -1 else 1) * (p * s : Nat)
        let right : Int := (if m then -1 else 1) * (r * q : Nat)
        let sum := left + right
        ofRatio (sum < 0) sum.natAbs (q * s)
  | .nan, _ => .nan
  | _, .nan => .nan
  | .infinite n, .infinite m => if n == m then .infinite n else .nan
  | .infinite n, .finite _ _ => .infinite n
  | .finite _ _, .infinite m => .infinite m

def throughSingle : Double → Double
  | .finite negative rank =>
      let (num, den) := ratio rank
      let (multiple, exponent) := binary32.round num den
      if exponent + 149 ≥ 253 ∧ pow2 24 ≤ multiple ∨ exponent + 149 ≥ 254 then
        .infinite negative
      else if exponent < 0 then ofRatio negative multiple (pow2 (-exponent).toNat)
      else ofRatio negative (multiple * pow2 exponent.toNat) 1
  | x => x

def roundAway : Double → Option Int
  | .finite negative rank =>
      let (num, den) := ratio rank
      let n := (2 * num + den) / (2 * den)
      some (if negative then -(n : Int) else n)
  | _ => none

end Double
end Rostering.Number
