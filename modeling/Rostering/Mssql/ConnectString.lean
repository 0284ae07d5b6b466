import Rostering.Mssql.Error
import Rostering.Text.Basic

namespace Rostering.Mssql

inductive Piece where
  | semicolon
  | equals
  | blank
  | lineBreak
  | char (c : Char)
  | quoted (cs : List Char)
deriving DecidableEq, Repr

inductive StringFault where
  | badCharacter (c : Char)
  | badQuoted (close c : Char)
  | unclosed (what : String)
  | emptyKey
  | noEquals
  | noSemicolon
deriving DecidableEq, Repr

def StringFault.message : StringFault → String
  | .badCharacter c => "Invalid character found: " ++ c.toString
  | .badQuoted close c =>
      "Invalid ado.net token" ++ (if close = '"' then "" else " \x60" ++ c.toString ++ "\x60")
  | .unclosed what => "unclosed " ++ what
  | .emptyKey => "Key must not be empty"
  | .noEquals => "key-value pairs must be joined by a \x60=\x60"
  | .noSemicolon => "Key-value pairs must be separated by a \x60;\x60"

def isAscii (c : Char) : Bool := c.toNat < 128

def plainPiece (c : Char) : Except StringFault Piece :=
  if c = ';' then .ok .semicolon
  else if c = '=' then .ok .equals
  else if c = '\n' then .ok .lineBreak
  else if c = ' ' then .ok .blank
  else if isAscii c then .ok (.char c)
  else .error (.badCharacter c)

def closing? (c : Char) : Option Char :=
  if c = '"' ∨ c = '\'' then some c else if c = '\x7b' then some '\x7d' else none

def quoteName (close : Char) : String :=
  if close = '"' then "double quote" else if close = '\'' then "single quote" else "escape literal"

def splitPieces : Option (Char × List Char) → List Char → Except StringFault (List Piece)
  | none, [] => .ok []
  | some (close, _), [] => .error (.unclosed (quoteName close))
  | none, c :: cs =>
      match closing? c with
      | some close => splitPieces (some (close, [])) cs
      | none => do
          let piece ← plainPiece c
          return piece :: (← splitPieces none cs)
  | some (close, held), c :: cs =>
      if c = close then
        match cs with
        | [] => .ok [.quoted held.reverse]
        | d :: more =>
            if d = close ∧ close ≠ '\x7d' ∧ held ≠ [] then
              splitPieces (some (close, c :: held)) more
            else do return .quoted held.reverse :: (← splitPieces none (d :: more))
      else if isAscii c then splitPieces (some (close, c :: held)) cs
      else .error (.badQuoted close c)

def readText : List Char → List Piece → List Char × List Piece
  | held, .char c :: ps => readText (held ++ [c]) ps
  | held, .quoted cs :: ps => readText (held ++ cs) ps
  | held, .lineBreak :: ps => readText held ps
  | held, .blank :: ps => readText (if held.isEmpty then held else held ++ [' ']) ps
  | held, ps => (Text.trimEnd held, ps)

theorem readText_length (held : List Char) (ps : List Piece) :
    (readText held ps).2.length ≤ ps.length := by
  fun_induction readText held ps <;> simp_all <;> omega

abbrev Settings := List (String × String)

namespace Settings

def get? (name : String) (settings : Settings) : Option String :=
  (settings.reverse.find? (fun s => s.1 = name)).map (·.2)

def readOne (ps : List Piece) : Except StringFault ((String × String) × List Piece) :=
  let (key, afterKey) := readText [] ps
  if key.isEmpty then .error .emptyKey
  else
    match afterKey with
    | .equals :: rest =>
        let (value, afterValue) := readText [] rest
        .ok ((Text.lowerAscii (String.ofList key), String.ofList value), afterValue)
    | _ => .error .noEquals

theorem readOne_length {ps rest : List Piece} {one : String × String}
    (h : readOne ps = .ok (one, rest)) : rest.length < ps.length := by
  unfold readOne at h
  have hkey := readText_length [] ps
  split at h
  rename_i key afterKey hread
  rw [hread] at hkey
  split at h
  · cases h
  · split at h
    · rename_i rest'
      have hvalue := readText_length [] rest'
      simp only [Except.ok.injEq, Prod.mk.injEq] at h
      rw [← h.2]
      simp only [List.length_cons] at hkey
      omega
    · cases h

def readSome (ps : List Piece) : Except StringFault Settings :=
  match _h : readOne ps with
  | .error fault => .error fault
  | .ok (one, []) => .ok [one]
  | .ok (one, [.semicolon]) => .ok [one]
  | .ok (one, .semicolon :: next) => do return one :: (← readSome next)
  | .ok _ => .error .noSemicolon
termination_by ps.length
decreasing_by
  have := readOne_length _h
  simp only [List.length_cons] at this
  omega

def read (connectionString : String) : Except StringFault Settings := do
  match ← splitPieces none connectionString.toList with
  | [] => return []
  | pieces => readSome pieces

end Settings

def serverKeys : List String := ["server", "data source"]

def portFault? (port : String) : Option ClientError :=
  match Text.readUnsigned 65536 port.toList with
  | .ok _ => none
  | .error fault => some (.integer fault.message)

def serverFault? (server : String) : Option ClientError :=
  let chars := server.toList
  let address := if "tcp:".toList.isPrefixOf chars then chars.drop 4 else chars
  match Text.pieces (· == ',') address with
  | [_] => none
  | [_, port] => portFault? (String.ofList port)
  | _ => some (.conversion "Server value faulty.")

def readFlag? (value : String) : Option Bool :=
  let word := Text.lowerAscii (String.ofList (Text.trim value.toList))
  if word = "true" ∨ word = "yes" then some true
  else if word = "false" ∨ word = "no" then some false
  else none

def flagFault? (value : String) : Option ClientError :=
  if (readFlag? value).isSome then none
  else some (.conversion "Connection string: Not a valid boolean")

def encryptionFault? (value : String) : Option ClientError :=
  if value = "DANGER_PLAINTEXT" then none else flagFault? value

inductive Verdict where
  | usable
  | faulty (error : ClientError)
  | contradictory
deriving DecidableEq, Repr

def excludesItself (settings : Settings) : Bool :=
  ((settings.get? "trustservercertificate").bind readFlag?) == some true &&
    (settings.get? "trustservercertificateca").isSome

def verdict (connectionString : String) : Verdict :=
  match Settings.read connectionString with
  | .error fault => .faulty (.conversion ("Conversion error: " ++ fault.message))
  | .ok settings =>
      match ((serverKeys.findSome? (settings.get? ·)).bind serverFault?) <|>
          ((settings.get? "trustservercertificate").bind flagFault?) with
      | some error => .faulty error
      | none =>
          if excludesItself settings then .contradictory
          else
            match (settings.get? "encrypt").bind encryptionFault? with
            | some error => .faulty error
            | none => .usable

end Rostering.Mssql
