import Rostering.Calendar.Timestamp
import Rostering.Text.Basic

namespace Rostering.Calendar

inductive Item where
  | year | month | day | hour | minute | second
  | fraction
  | blanks
  | mark (c : Char)
deriving DecidableEq, Repr

structure Parts where
  year : Int
  month : Nat
  day : Nat
  hour : Nat
  minute : Nat
  second : Nat
  nano : Nat
deriving DecidableEq, Repr

def Parts.start : Parts := ⟨0, 0, 0, 0, 0, 0, 0⟩

def takeDigits : Nat → List Char → List Char × List Char
  | 0, cs => ([], cs)
  | _ + 1, [] => ([], [])
  | width + 1, c :: cs =>
      if c.isDigit then
        let (ds, rest) := takeDigits width cs
        (c :: ds, rest)
      else ([], c :: cs)

def readNumber (width : Nat) (cs : List Char) : Option (Nat × List Char) :=
  let (ds, rest) := takeDigits width cs
  if ds.isEmpty then none else some (Nat.ofDigitChars 10 ds 0, rest)

def readYear (cs : List Char) : Option (Int × List Char) :=
  match cs with
  | '-' :: rest => (readNumber rest.length rest).map fun (n, rest) => (-(n : Int), rest)
  | '+' :: rest => (readNumber rest.length rest).map fun (n, rest) => ((n : Int), rest)
  | _ => (readNumber 4 cs).map fun (n, rest) => ((n : Int), rest)

def readNanos (cs : List Char) : Option (Nat × List Char) :=
  let (ds, rest) := takeDigits 9 cs
  if ds.isEmpty then none
  else some (Nat.ofDigitChars 10 ds 0 * Nat.pow 10 (9 - ds.length), rest.dropWhile Char.isDigit)

def readTwo (cs : List Char) : Option (Nat × List Char) := readNumber 2 (Text.trimStart cs)

def Item.read (parts : Parts) (cs : List Char) : Item → Option (Parts × List Char)
  | .year => (readYear (Text.trimStart cs)).map fun (n, rest) => ({ parts with year := n }, rest)
  | .month => (readTwo cs).map fun (n, rest) => ({ parts with month := n }, rest)
  | .day => (readTwo cs).map fun (n, rest) => ({ parts with day := n }, rest)
  | .hour => (readTwo cs).map fun (n, rest) => ({ parts with hour := n }, rest)
  | .minute => (readTwo cs).map fun (n, rest) => ({ parts with minute := n }, rest)
  | .second => (readTwo cs).map fun (n, rest) => ({ parts with second := n }, rest)
  | .fraction =>
      match cs with
      | '.' :: rest => (readNanos rest).map fun (n, rest) => ({ parts with nano := n }, rest)
      | _ => some (parts, cs)
  | .blanks => some (parts, Text.trimStart cs)
  | .mark c =>
      match cs with
      | [] => none
      | d :: rest => if d = c then some (parts, rest) else none

def readItems : List Item → Parts → List Char → Option Parts
  | [], parts, cs => if cs.isEmpty then some parts else none
  | item :: items, parts, cs =>
      match item.read parts cs with
      | none => none
      | some (parts, rest) => readItems items parts rest

def Parts.date? (p : Parts) : Option Date := Date.of? p.year p.month p.day

def Parts.timestamp? (p : Parts) : Option Timestamp := do
  let date ← p.date?
  Timestamp.of? date ⟨p.hour, p.minute, p.second, p.nano⟩

def dateItems : List Item := [.year, .mark '-', .month, .mark '-', .day]

def fullItems : List Item :=
  dateItems ++ [.mark 'T', .hour, .mark ':', .minute, .mark ':', .second, .fraction]

def spacedItems : List Item :=
  dateItems ++ [.blanks, .hour, .mark ':', .minute, .mark ':', .second, .fraction]

def minuteItems : List Item := dateItems ++ [.mark 'T', .hour, .mark ':', .minute]

def readDate (cs : List Char) : Option Date := do
  let parts ← readItems dateItems Parts.start cs
  parts.date?

def readWith (items : List Item) (cs : List Char) : Option Timestamp := do
  let parts ← readItems items Parts.start cs
  parts.timestamp?

def readExactly (width : Nat) (cs : List Char) : Option (Nat × List Char) :=
  let (ds, rest) := takeDigits width cs
  if ds.length = width then some (Nat.ofDigitChars 10 ds 0, rest) else none

def readMark (c : Char) (cs : List Char) : Option (List Char) :=
  match cs with
  | [] => none
  | d :: rest => if d = c then some rest else none

def readOffset (cs : List Char) : Option Int :=
  match cs with
  | [] => none
  | c :: rest =>
      if c = 'Z' ∨ c = 'z' then (if rest.isEmpty then some 0 else none)
      else if c = '+' ∨ c = '-' ∨ c = '\u2212' then do
        let (hours, rest) ← readExactly 2 rest
        let rest ← readMark ':' rest
        let (minutes, rest) ← readExactly 2 rest
        if rest.isEmpty ∧ minutes < 60 ∧ hours < 24 then
          some (if c = '+' then (hours * 60 + minutes : Nat) else -(hours * 60 + minutes : Nat))
        else none
      else none

def readFraction (cs : List Char) : Option (Nat × List Char) :=
  match cs with
  | '.' :: rest => readNanos rest
  | _ => some (0, cs)

def readZoned (cs : List Char) : Option Timestamp := do
  let (year, cs) ← readExactly 4 cs
  let cs ← readMark '-' cs
  let (month, cs) ← readExactly 2 cs
  let cs ← readMark '-' cs
  let (day, cs) ← readExactly 2 cs
  let cs ← match cs with
    | [] => none
    | c :: rest => if c = 'T' ∨ c = 't' ∨ c = ' ' then some rest else none
  let (hour, cs) ← readExactly 2 cs
  let cs ← readMark ':' cs
  let (minute, cs) ← readExactly 2 cs
  let cs ← readMark ':' cs
  let (second, cs) ← readExactly 2 cs
  let (nano, cs) ← readFraction cs
  let offset ← readOffset cs
  let date ← Date.of? year month day
  let wall ← Timestamp.of? date ⟨hour, minute, second, nano⟩
  wall.shift? (-offset)

def readMidnight (cs : List Char) : Option Timestamp := (readDate cs).map fun d => ⟨d, midnight⟩

def readings : List (List Char → Option Timestamp) :=
  [readZoned, readWith fullItems, readWith spacedItems, readWith minuteItems, readMidnight]

def readTimestamp (cs : List Char) : Option Timestamp := readings.findSome? (· cs)

end Rostering.Calendar
