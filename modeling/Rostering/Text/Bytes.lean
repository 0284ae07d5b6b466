import Rostering.Text.Basic

namespace Rostering.Text.Utf8

structure Pending where
  due : Nat
  lowest : Nat
  highest : Nat
  point : Nat
deriving DecidableEq, Repr

def enter (byte : UInt8) : List (Option Char) × Option Pending :=
  let b := byte.toNat
  if b < 0x80 then ([some (Char.ofNat b)], none)
  else if 0xC2 ≤ b ∧ b ≤ 0xDF then ([], some ⟨1, 0x80, 0xBF, b % 0x20⟩)
  else if b = 0xE0 then ([], some ⟨2, 0xA0, 0xBF, 0⟩)
  else if b = 0xED then ([], some ⟨2, 0x80, 0x9F, 0xD⟩)
  else if 0xE1 ≤ b ∧ b ≤ 0xEF then ([], some ⟨2, 0x80, 0xBF, b % 0x10⟩)
  else if b = 0xF0 then ([], some ⟨3, 0x90, 0xBF, 0⟩)
  else if b = 0xF4 then ([], some ⟨3, 0x80, 0x8F, 4⟩)
  else if 0xF1 ≤ b ∧ b ≤ 0xF3 then ([], some ⟨3, 0x80, 0xBF, b % 8⟩)
  else ([none], none)

def scan : Option Pending → List UInt8 → List (Option Char)
  | none, [] => []
  | some _, [] => [none]
  | none, byte :: bytes => (enter byte).1 ++ scan (enter byte).2 bytes
  | some p, byte :: bytes =>
      let b := byte.toNat
      if p.lowest ≤ b ∧ b ≤ p.highest then
        let point := p.point * 64 + b % 64
        match p.due with
        | due + 2 => scan (some ⟨due + 1, 0x80, 0xBF, point⟩) bytes
        | _ => some (Char.ofNat point) :: scan none bytes
      else none :: (enter byte).1 ++ scan (enter byte).2 bytes

def encode (cs : List Char) : List UInt8 := cs.flatMap String.utf8EncodeChar

def replacement : Char := '\uFFFD'

def lossy (bytes : List UInt8) : List Char :=
  (scan none bytes).map fun c => c.getD replacement

def strict? (bytes : List UInt8) : Option (List Char) := (scan none bytes).mapM id

/-- How many bytes of a character were read when a byte came that cannot continue it; there is no
such byte when the text ends first. -/
def brokenAfter : Pending → Nat → List UInt8 → Option Nat
  | _, _, [] => none
  | p, n, byte :: bytes =>
      if p.lowest ≤ byte.toNat ∧ byte.toNat ≤ p.highest then
        brokenAfter ⟨p.due - 1, 0x80, 0xBF, 0⟩ (n + 1) bytes
      else some n

def fault? (bytes : List UInt8) : Option (Nat × Option Nat) :=
  let whole := ((scan none bytes).takeWhile Option.isSome).filterMap id
  let index := (encode whole).length
  match bytes.drop index with
  | [] => none
  | byte :: rest =>
      some (index, match (enter byte).2 with
        | none => some 1
        | some p => brokenAfter p 1 rest)

theorem scan_ascii {byte : UInt8} (h : byte.toNat < 0x80) (bytes : List UInt8) :
    scan none (byte :: bytes) = some (Char.ofNat byte.toNat) :: scan none bytes := by
  simp [scan, enter, h]

end Rostering.Text.Utf8

namespace Rostering.Text

def hexValue? (c : Char) : Option Nat :=
  if '0' ≤ c ∧ c ≤ '9' then some (c.toNat - 48)
  else if 'a' ≤ c ∧ c ≤ 'f' then some (c.toNat - 87)
  else if 'A' ≤ c ∧ c ≤ 'F' then some (c.toNat - 55)
  else none

def unescape : List Char → List UInt8
  | [] => []
  | '%' :: a :: b :: rest =>
      match hexValue? a, hexValue? b with
      | some high, some low => UInt8.ofNat (16 * high + low) :: unescape rest
      | _, _ => String.utf8EncodeChar '%' ++ unescape (a :: b :: rest)
  | c :: rest => String.utf8EncodeChar c ++ unescape rest

def upperHex (n : Nat) : Char := Char.ofNat (if n < 10 then 48 + n else 55 + n)

def formText (cs : List Char) : String :=
  String.ofList (Utf8.lossy (unescape (cs.map fun c => if c = '+' then ' ' else c)))

def formPair (part : List Char) : String × String :=
  let (name, value) := (cut? ['='] part).getD (part, [])
  (formText name, formText value)

def formPairs (query : String) : List (String × String) :=
  ((pieces (· == '&') query.toList).filter (fun part => !part.isEmpty)).map formPair

end Rostering.Text
