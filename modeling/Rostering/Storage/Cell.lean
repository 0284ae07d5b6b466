import Rostering.Calendar.Timestamp
import Rostering.Json.Parse
import Rostering.Storage.Executor

namespace Rostering.Storage

open Calendar (Date Timestamp)

inductive Cell where
  | null
  | flag (value : Bool)
  | integer (value : Int)
  | double (value : Number.Double)
  | text (value : String)
  | date (value : Option Date)
  | moment (value : Option Timestamp)
  | uuid (bytes : List UInt8)
  | document (body : String)
  | texts (items : List (Option String))

inductive CellFault where
  | uuidLength (found : Nat)
  | nullItem
  | badDocument
  | outOfRange
deriving DecidableEq, Repr

def CellFault.message : CellFault → String
  | .uuidLength found => "invalid length: expected 16 bytes, found " ++ Text.natText found
  | .nullItem => "unexpected null; try decoding as an \x60Option\x60"
  | .badDocument => "<json error>"
  | .outOfRange => "value out of range"

def hexPair (byte : UInt8) : List Char :=
  [Nat.digitChar (byte.toNat / 16), Nat.digitChar (byte.toNat % 16)]

def uuidText (bytes : List UInt8) : String :=
  let group (start length : Nat) : List Char := ((bytes.drop start).take length).flatMap hexPair
  String.ofList (List.intercalate ['-'] [group 0 4, group 4 2, group 6 2, group 8 2, group 10 6])

namespace Cell

def doubleJson (x : Number.Double) : Json :=
  match x with
  | .finite _ _ => .double x
  | _ => .null

def json : Cell → Except CellFault Json
  | .null => .ok .null
  | .flag value => .ok (.bool value)
  | .integer value => .ok (.int value)
  | .double value => .ok (doubleJson value)
  | .text value => .ok (.str value)
  | .date (some d) => .ok (.str d.text)
  | .date none => .error .outOfRange
  | .moment (some t) => .ok (.str t.reported)
  | .moment none => .error .outOfRange
  | .uuid bytes =>
      if bytes.length = 16 then .ok (.str (uuidText bytes)) else .error (.uuidLength bytes.length)
  | .document body =>
      match Json.parse body with
      | some value => .ok value
      | none => .error .badDocument
  | .texts items =>
      match items.mapM id with
      | some values => .ok (.arr (values.map .str))
      | none => .error .nullItem

end Cell

abbrev Row := List (String × Cell)

def readCells (record : Record) : Nat → Row → Except Failure Record
  | _, [] => .ok record
  | index, (name, cell) :: rest =>
      match cell.json with
      | .ok value => readCells (record.set name value) (index + 1) rest
      | .error fault =>
          .error (.decode name ("error occurred while decoding column " ++ Text.natText index ++
            ": " ++ fault.message))

def readRow (row : Row) : Except Failure Record := readCells [] 0 row

def readRows (rows : List Row) : Reply :=
  match rows.mapM readRow with
  | .ok records => .records records
  | .error failure => .failed failure

end Rostering.Storage
