import Rostering.Calendar.Date

namespace Rostering.Calendar

/-- A time of day. Second 60 is a leap second and may stand in any minute. -/
structure Clock where
  hour : Nat
  minute : Nat
  second : Nat
  nano : Nat
deriving DecidableEq, Repr

def Clock.Valid (c : Clock) : Prop :=
  c.hour < 24 ∧ c.minute < 60 ∧ c.second ≤ 60 ∧ c.nano < 1000000000

instance (c : Clock) : Decidable c.Valid := inferInstanceAs (Decidable (_ ∧ _))

def midnight : Clock := ⟨0, 0, 0, 0⟩

structure Timestamp where
  date : Date
  clock : Clock
deriving DecidableEq, Repr

def Timestamp.Valid (t : Timestamp) : Prop := t.date.Valid ∧ t.clock.Valid

instance (t : Timestamp) : Decidable t.Valid := inferInstanceAs (Decidable (_ ∧ _))

def Timestamp.of? (date : Date) (clock : Clock) : Option Timestamp :=
  let t : Timestamp := ⟨date, clock⟩
  if t.Valid then some t else none

def Timestamp.minutes (t : Timestamp) : Int :=
  t.date.dayNumber * 1440 + t.clock.hour * 60 + t.clock.minute

def Timestamp.shift? (t : Timestamp) (minutes : Int) : Option Timestamp := do
  let total := t.minutes + minutes
  let date ← ofDayNumber? (total / 1440)
  let rest := (total % 1440).toNat
  some ⟨date, { t.clock with hour := rest / 60, minute := rest % 60 }⟩

def epochDay : Int := (⟨1970, 1, 1⟩ : Date).dayNumber

def clockOf? (secondOfDay nano : Nat) : Option Clock :=
  let hour := secondOfDay / 3600
  let minute := secondOfDay / 60 % 60
  let second := secondOfDay % 60
  if nano < 1000000000 then some ⟨hour, minute, second, nano⟩
  else if second = 59 ∧ nano < 2000000000 then some ⟨hour, minute, 60, nano - 1000000000⟩
  else none

def Timestamp.ofUnix? (seconds : Int) (nano : Nat) : Option Timestamp := do
  let date ← ofDayNumber? (seconds / 86400 + epochDay)
  let clock ← clockOf? (seconds % 86400).toNat nano
  some ⟨date, clock⟩

def Timestamp.afterDay? (dayNumber : Int) (nanos : Nat) : Option Timestamp :=
  Timestamp.ofUnix? ((dayNumber - epochDay) * 86400 + (nanos / 1000000000 : Nat))
    (nanos % 1000000000)

def Clock.chars (c : Clock) : List Char :=
  Text.padded 2 c.hour ++ ':' :: (Text.padded 2 c.minute ++ ':' :: (Text.padded 2 c.second ++
    '.' :: Text.padded 3 (c.nano / 1000000)))

def Timestamp.literalChars (t : Timestamp) : List Char := t.date.chars ++ 'T' :: t.clock.chars

def Timestamp.literal (t : Timestamp) : String := String.ofList t.literalChars

def Timestamp.reported (t : Timestamp) : String := String.ofList (t.literalChars ++ ['Z'])

end Rostering.Calendar
