namespace Rostering.Text

def digits (n : Nat) : List Char := Nat.toDigits 10 n

def padded (width n : Nat) : List Char :=
  List.replicate (width - (digits n).length) '0' ++ digits n

def intDigits : Int → List Char
  | .ofNat n => digits n
  | .negSucc n => '-' :: digits (n + 1)

def natural? (cs : List Char) : Option Nat :=
  if !cs.isEmpty && cs.all Char.isDigit then some (Nat.ofDigitChars 10 cs 0) else none

def u64Limit : Nat := 18446744073709551616

def i64Limit : Nat := 9223372036854775808

def u64? (cs : List Char) : Option Nat := do
  let n ← natural? (match cs with | '+' :: rest => rest | _ => cs)
  if n < u64Limit then some n else none

def i64? (cs : List Char) : Option Int := do
  let (negative, body) := match cs with
    | '+' :: rest => (false, rest)
    | '-' :: rest => (true, rest)
    | _ => (false, cs)
  let n ← natural? body
  if negative then (if n ≤ i64Limit then some (-(n : Int)) else none)
  else (if n < i64Limit then some (n : Int) else none)

inductive NumberFault where
  | empty
  | badDigit
  | tooLarge
deriving DecidableEq, Repr

def NumberFault.message : NumberFault → String
  | .empty => "cannot parse integer from empty string"
  | .badDigit => "invalid digit found in string"
  | .tooLarge => "number too large to fit in target type"

def readDigits (limit : Nat) : Nat → List Char → Except NumberFault Nat
  | n, [] => .ok n
  | n, c :: cs =>
      if c.isDigit then
        let next := 10 * n + (c.toNat - 48)
        if next < limit then readDigits limit next cs else .error .tooLarge
      else .error .badDigit

def readUnsigned (limit : Nat) (cs : List Char) : Except NumberFault Nat :=
  match cs with
  | [] => .error .empty
  | ['+'] => .error .badDigit
  | '+' :: rest => readDigits limit 0 rest
  | _ => readDigits limit 0 cs

def natText (n : Nat) : String := String.ofList (digits n)

def intText (n : Int) : String := String.ofList (intDigits n)

theorem digits_ne_nil (n : Nat) : digits n ≠ [] :=
  List.ne_nil_of_length_pos Nat.length_toDigits_pos

theorem digits_all_isDigit (n : Nat) : (digits n).all Char.isDigit = true := by
  rw [List.all_eq_true]
  intro c hc
  exact Nat.isDigit_of_mem_toDigits (by decide) (by decide) hc

theorem natural?_digits (n : Nat) : natural? (digits n) = some n := by
  have hall := digits_all_isDigit n
  have hval : Nat.ofDigitChars 10 (digits n) 0 = n := Nat.ofDigitChars_ten_toDigits
  have hne : (digits n).isEmpty = false := by
    cases h : digits n with
    | nil => exact absurd h (digits_ne_nil n)
    | cons c cs => rfl
  simp [natural?, hall, hval, hne]

end Rostering.Text
