import Rostering.Text.Integer

namespace Rostering.Calendar

def isLeapYear (year : Int) : Bool := year % 4 = 0 && (year % 100 ≠ 0 || year % 400 = 0)

def monthLengths (year : Int) : List Nat :=
  [31, if isLeapYear year then 29 else 28, 31, 30, 31, 30, 31, 31, 30, 31, 30, 31]

def daysInMonth (year : Int) (month : Nat) : Nat := (monthLengths year).getD (month - 1) 0

structure Date where
  year : Int
  month : Nat
  day : Nat
deriving DecidableEq, Repr

def minYear : Int := -262143

def maxYear : Int := 262142

def Date.Valid (d : Date) : Prop :=
  minYear ≤ d.year ∧ d.year ≤ maxYear ∧ 1 ≤ d.month ∧ d.month ≤ 12 ∧
    1 ≤ d.day ∧ d.day ≤ daysInMonth d.year d.month

instance (d : Date) : Decidable d.Valid := inferInstanceAs (Decidable (_ ∧ _))

def Date.of? (year : Int) (month day : Nat) : Option Date :=
  let d : Date := ⟨year, month, day⟩
  if d.Valid then some d else none

def daysBeforeYear (year : Int) : Int :=
  let y := year - 1
  365 * y + y / 4 - y / 100 + y / 400

def daysOfMonths : List Nat → Nat
  | [] => 0
  | length :: rest => length + daysOfMonths rest

def Date.dayNumber (d : Date) : Int :=
  daysBeforeYear d.year + daysOfMonths ((monthLengths d.year).take (d.month - 1)) + d.day - 1

def monthAndDay : List Nat → Nat → Nat → Nat × Nat
  | [], month, day => (month, day + 1)
  | length :: rest, month, day =>
      if day < length then (month, day + 1) else monthAndDay rest (month + 1) (day - length)

def ofDayNumber (n : Int) : Date :=
  let cycle := n / 146097
  let inCycle := (n % 146097).toNat
  let century := min 3 (inCycle / 36524)
  let inCentury := inCycle - century * 36524
  let four := inCentury / 1461
  let inFour := inCentury % 1461
  let single := min 3 (inFour / 365)
  let year : Int := cycle * 400 + (century * 100 + four * 4 + single : Nat) + 1
  let (month, day) := monthAndDay (monthLengths year) 1 (inFour - single * 365)
  ⟨year, month, day⟩

def ofDayNumber? (n : Int) : Option Date :=
  let d := ofDayNumber n
  if d.Valid then some d else none

def yearChars (year : Int) : List Char :=
  if 0 ≤ year ∧ year ≤ 9999 then Text.padded 4 year.toNat
  else (if year < 0 then '-' else '+') :: Text.padded 4 year.natAbs

def Date.chars (d : Date) : List Char :=
  yearChars d.year ++ '-' :: (Text.padded 2 d.month ++ '-' :: Text.padded 2 d.day)

def Date.text (d : Date) : String := String.ofList d.chars

theorem Date.of?_eq_some_iff {year : Int} {month day : Nat} {d : Date} :
    Date.of? year month day = some d ↔ d = ⟨year, month, day⟩ ∧ d.Valid := by
  simp only [Date.of?]
  constructor
  · intro h
    split at h
    · rename_i hv
      cases h
      exact ⟨rfl, hv⟩
    · cases h
  · rintro ⟨rfl, hv⟩
    simp [hv]

end Rostering.Calendar
