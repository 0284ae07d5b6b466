import Rostering.Text.Bytes

namespace Rostering.Toml

inductive EscapeMode where
  | text
  | escape
  | unit (due value : Nat)
  | lineEnd
  | skipping
deriving DecidableEq, Repr

def escaped? (c : Char) : Option Char :=
  if c = '"' ∨ c = '\\' then some c
  else if c = 'b' then some '\x08'
  else if c = 'e' then some '\x1b'
  else if c = 't' then some '\t'
  else if c = 'n' then some '\n'
  else if c = 'f' then some '\x0c'
  else if c = 'r' then some '\r'
  else none

def isScalarPoint (n : Nat) : Bool := n < 0xD800 || (0xE000 ≤ n && n < 0x110000)

def unescape (long : Bool) : EscapeMode → List Char → Option (List Char)
  | .text, [] => some []
  | .skipping, [] => some []
  | _, [] => none
  | .text, c :: cs =>
      if c = '\\' then unescape long .escape cs else (unescape long .text cs).map (c :: ·)
  | .escape, c :: cs =>
      if c = 'x' then unescape long (.unit 2 0) cs
      else if c = 'u' then unescape long (.unit 4 0) cs
      else if c = 'U' then unescape long (.unit 8 0) cs
      else if long ∧ c = '\n' then unescape long .skipping cs
      else if long ∧ (c = ' ' ∨ c = '\t' ∨ c = '\r') then unescape long .lineEnd cs
      else match escaped? c with
        | some e => (unescape long .text cs).map (e :: ·)
        | none => none
  | .unit due value, c :: cs =>
      match Text.hexValue? c with
      | none => none
      | some d =>
          let value := value * 16 + d
          if 1 < due then unescape long (.unit (due - 1) value) cs
          else if isScalarPoint value then
            (unescape long .text cs).map (Char.ofNat value :: ·)
          else none
  | .lineEnd, c :: cs =>
      if c = '\n' then unescape long .skipping cs
      else if c = ' ' ∨ c = '\t' ∨ c = '\r' then unescape long .lineEnd cs
      else none
  | .skipping, c :: cs =>
      if c = '\n' ∨ c = ' ' ∨ c = '\t' ∨ c = '\r' then unescape long .skipping cs
      else if c = '\\' then unescape long .escape cs
      else (unescape long .text cs).map (c :: ·)

def rawShort (mark : Char) (escapes : Bool) : Bool → List Char → Option (List Char × List Char)
  | _, [] => none
  | true, c :: cs => (rawShort mark escapes false cs).map fun (s, rest) => (c :: s, rest)
  | false, c :: cs =>
      if c = mark then some ([], cs)
      else (rawShort mark escapes (escapes && c == '\\') cs).map fun (s, rest) => (c :: s, rest)

/-- The content of a long string up to its three closing marks, in front of which up to two more may
belong to the content. The counter is the number of marks just read. -/
def rawLong (mark : Char) (escapes : Bool) :
    Bool → Nat → List Char → Option (List Char × List Char)
  | escaped, run, [] =>
      if !escaped && 3 ≤ run then some (List.replicate (run - 3) mark, []) else none
  | true, _, c :: cs => (rawLong mark escapes false 0 cs).map fun (s, rest) => (c :: s, rest)
  | false, run, c :: cs =>
      if c = mark then
        if run = 4 then some ([mark, mark], cs) else rawLong mark escapes false (run + 1) cs
      else if 3 ≤ run then some (List.replicate (run - 3) mark, c :: cs)
      else (rawLong mark escapes (escapes && c == '\\') 0 cs).map fun (s, rest) =>
        (List.replicate run mark ++ c :: s, rest)

def isPrintable (c : Char) : Bool := c == '\t' || (0x20 ≤ c.toNat && c.toNat != 0x7F)

def isLongText : List Char → Bool
  | [] => true
  | ['\r'] => false
  | '\r' :: '\n' :: cs => isLongText cs
  | c :: cs => (c == '\n' || isPrintable c) && isLongText cs

def dropFirstBreak : List Char → List Char
  | '\n' :: cs => cs
  | '\r' :: '\n' :: cs => cs
  | cs => cs

def readShort (mark : Char) (cs : List Char) : Option (List Char × List Char) := do
  let (raw, rest) ← rawShort mark (mark == '"') false cs
  if raw.all isPrintable then
    if mark = '"' then some (← unescape false .text raw, rest) else some (raw, rest)
  else none

def readLong (mark : Char) (cs : List Char) : Option (List Char × List Char) := do
  let (raw, rest) ← rawLong mark (mark == '"') false 0 (dropFirstBreak cs)
  if isLongText raw then
    if mark = '"' then some (← unescape true .text raw, rest) else some (raw, rest)
  else none

def readQuoted (cs : List Char) : Option (List Char × List Char) :=
  match cs with
  | '"' :: '"' :: '"' :: rest => readLong '"' rest
  | '\'' :: '\'' :: '\'' :: rest => readLong '\'' rest
  | '"' :: rest => readShort '"' rest
  | '\'' :: rest => readShort '\'' rest
  | _ => none

end Rostering.Toml
