import Rostering.Config.Environment
import Rostering.Text.Bytes
import Rostering.Text.Characters

namespace Rostering.Config.Dotenv

structure LineFault where
  line : List Char
  index : Nat
deriving DecidableEq, Repr

def LineFault.message (f : LineFault) : String :=
  "Error parsing line: '" ++ String.ofList f.line ++ "', error at line index: " ++
    Text.natText f.index

def byteLength (cs : List Char) : Nat := (Text.Utf8.encode cs).length

inductive LineState where
  | complete
  | blank
  | escape
  | weak
  | weakEscape
  | strong
  | strongEscape
deriving DecidableEq, Repr

def outside (c : Char) : LineState :=
  if c = '\\' then .escape else if c = '"' then .weak else if c = '\'' then .strong else .complete

def LineState.next (state : LineState) (c : Char) : LineState :=
  match state with
  | .complete => if Text.isBlank c ∧ c ≠ '\n' ∧ c ≠ '\r' then .blank else outside c
  | .blank => outside c
  | .escape => .complete
  | .weak => if c = '\\' then .weakEscape else if c = '"' then .complete else .weak
  | .weakEscape => .weak
  | .strong => if c = '\\' then .strongEscape else if c = '\'' then .complete else .strong
  | .strongEscape => .strong

def scanLine : LineState → List Char → List Char × Option LineState
  | state, [] => ([], some state)
  | state, c :: cs =>
      if state = .blank ∧ c = '#' then ([], none)
      else
        let (kept, last) := scanLine (state.next c) cs
        (c :: kept, last)

def physicalLines : List Char → List (List Char)
  | [] => []
  | c :: cs =>
      if c = '\n' then [c] :: physicalLines cs
      else
        match physicalLines cs with
        | [] => [[c]]
        | line :: lines => (c :: line) :: lines

def dropLineBreak (line : List Char) : List Char :=
  match line.reverse with
  | '\n' :: '\r' :: rest => rest.reverse
  | '\n' :: rest => rest.reverse
  | _ => line

def logicalLines : LineState → List Char → List (List Char) → List (Except LineFault (List Char))
  | state, held, [] => if state = .complete then [] else [.error ⟨held, byteLength held⟩]
  | state, held, line :: lines =>
      if (Text.trimStart (held ++ line)).head? = some '#' then
        .ok [] :: logicalLines .complete [] lines
      else
        match scanLine state line with
        | (kept, none) => .ok (held ++ kept) :: logicalLines .complete [] lines
        | (_, some .complete) =>
            .ok (dropLineBreak (held ++ line)) :: logicalLines .complete [] lines
        | (_, some pending) => logicalLines pending (held ++ line) lines

/-- Where the reading of a value stands. Inside quotes of the weak kind names are replaced; a name
follows a dollar sign, in braces or bare, and is held in reverse. -/
inductive ValueState where
  | plain (weak : Bool)
  | escaped (weak : Bool)
  | strong
  | ended
  | name (weak : Bool) (held : List Char)
  | braced (weak : Bool) (held : List Char)

def lookUp (env : Environment) (held : List Char) : List Char :=
  ((env.get? (String.ofList held.reverse)).getD "").toList

def plainStep (weak : Bool) (c : Char) : ValueState × List Char :=
  if c = '$' then (.name weak [], [])
  else if c = '\\' then (.escaped weak, [])
  else if weak then (if c = '"' then (.plain false, []) else (.plain true, [c]))
  else if c = '\'' then (.strong, [])
  else if c = '"' then (.plain true, [])
  else if c = ' ' ∨ c = '\t' then (.ended, [])
  else (.plain false, [c])

def valueStep (env : Environment) (state : ValueState) (c : Char) :
    Option (ValueState × List Char) :=
  match state with
  | .plain weak => some (plainStep weak c)
  | .ended => if c = ' ' ∨ c = '\t' then some (.ended, []) else none
  | .escaped weak =>
      if c ∈ ['\\', '\'', '"', '$', ' '] then some (.plain weak, [c])
      else if c = 'n' then some (.plain weak, ['\n'])
      else none
  | .strong => some (if c = '\'' then (.plain false, []) else (.strong, [c]))
  | .name weak held =>
      if Text.isAlphanumeric c then some (.name weak (c :: held), [])
      else if c = '\x7b' ∧ held.isEmpty then some (.braced weak [], [])
      else if c = '$' then some (.name weak [], lookUp env held)
      else some (.plain weak, lookUp env held ++ [c])
  | .braced weak held =>
      if c = '\x7d' then some (.plain weak, lookUp env held)
      else some (.braced weak (c :: held), [])

def valueEnd (env : Environment) : ValueState → Option (List Char)
  | .plain weak => if weak then none else some []
  | .escaped weak => if weak then none else some []
  | .strong => none
  | .ended => some []
  | .name weak held => if weak then none else some (lookUp env held)
  | .braced _ _ => none

def readValue (env : Environment) (whole : List Char) :
    ValueState → Nat → List Char → Except LineFault (List Char)
  | state, _, [] =>
      match valueEnd env state with
      | some rest => .ok rest
      | none => .error ⟨whole, byteLength whole - 1⟩
  | state, index, c :: cs =>
      match state, c with
      | .ended, '#' => .ok []
      | _, _ =>
          match valueStep env state c with
          | none => .error ⟨whole, index⟩
          | some (next, added) => do return added ++ (← readValue env whole next (index + 1) cs)

def isKeyStart (c : Char) : Bool := c.isAlpha || c == '_'

def isKeyChar (c : Char) : Bool := c.isAlphanum || c == '_' || c == '.'

def readKey (fault : List Char → LineFault) (cs : List Char) :
    Except LineFault (List Char × List Char) :=
  if cs.head?.any isKeyStart then
    .ok (cs.takeWhile isKeyChar, Text.trimStart (cs.dropWhile isKeyChar))
  else .error (fault cs)

def readEquals (fault : List Char → LineFault) (cs : List Char) : Except LineFault (List Char) :=
  match cs with
  | '=' :: rest => .ok (Text.trimStart rest)
  | _ => .error (fault cs)

def readLine (env : Environment) (line : List Char) :
    Except LineFault (Option (String × String)) := do
  let trimmed := Text.trimEnd line
  let fault (rest : List Char) : LineFault := ⟨line, byteLength trimmed - byteLength rest⟩
  let body := Text.trimStart trimmed
  if body.isEmpty ∨ body.head? = some '#' then return none
  let (first, afterFirst) ← readKey fault body
  let (key, rest) ←
    if first = "export".toList ∧ afterFirst.head? ≠ some '=' then do
      let (key, afterKey) ← readKey fault afterFirst
      pure (key, ← readEquals fault afterKey)
    else do pure (first, ← readEquals fault afterFirst)
  let value ←
    if rest.isEmpty ∨ rest.head? = some '#' then pure []
    else readValue env rest (.plain false) 0 rest
  return some (String.ofList key, String.ofList value)

def applyLines (env : Environment) :
    List (Except LineFault (List Char)) → Environment × Option LineFault
  | [] => (env, none)
  | .error fault :: _ => (env, some fault)
  | .ok line :: rest =>
      match readLine env line with
      | .error fault => (env, some fault)
      | .ok none => applyLines env rest
      | .ok (some (key, value)) =>
          applyLines (if (env.get? key).isSome then env else env ++ [(key, value)]) rest

def apply (env : Environment) (text : String) : Environment × Option LineFault :=
  applyLines env (logicalLines .complete [] (physicalLines (Text.dropByteOrderMark text.toList)))

end Rostering.Config.Dotenv
