import Rostering.Net.Address
import Rostering.Sql.Token
import Rostering.Storage.Cell

namespace Rostering

open Calendar (Timestamp)
open Number (Double)
open Sql (Dialect)
open Storage (Cell)

namespace Postgres

/-- A value as PostgreSQL sends it. Days, and microseconds, count from the start of 2000. -/
inductive Wire where
  | null
  | bool (value : Bool)
  | integer (value : Int)
  | single (value : Double)
  | double (value : Double)
  | text (value : String)
  | date (days : Int)
  | timestamp (micros : Int)
  | uuid (bytes : List UInt8)
  | document (body : String)
  | texts (items : List (Option String))
  | unsupported

def firstDay : Int := (⟨2000, 1, 1⟩ : Calendar.Date).dayNumber

def momentOf? (micros : Int) : Option Timestamp :=
  Timestamp.afterDay? (firstDay + micros / 86400000000) ((micros % 86400000000).toNat * 1000)

def Wire.cell : Wire → Cell
  | .null => .null
  | .bool value => .flag value
  | .integer value => .integer value
  | .single value => .double value.throughSingle
  | .double value => .double value
  | .text value => .text value
  | .date days => .date (Calendar.ofDayNumber? (firstDay + days))
  | .timestamp micros => .moment (momentOf? micros)
  | .uuid bytes => .uuid bytes
  | .document body => .document body
  | .texts items => .texts items
  | .unsupported => .null

end Postgres

namespace Mssql

/-- A value as SQL Server sends it. Days count from the start of 1900, and from that of year 1 in
the newer types; a tick is the three hundredth part of a second; an offset is in minutes. -/
inductive Wire where
  | null
  | integer (value : Int)
  | single (value : Double)
  | double (value : Double)
  | bit (value : Bool)
  | text (value : String)
  | guid (bytes : List UInt8)
  | numeric (value : Int) (scale : Nat)
  | date (days : Nat)
  | dateTime (days : Int) (ticks : Nat)
  | smallDateTime (days minutes : Nat)
  | dateTime2 (days fraction scale : Nat)
  | dateTimeOffset (days fraction scale : Nat) (offset : Int)
  | unsupported

def firstDay : Int := (⟨1900, 1, 1⟩ : Calendar.Date).dayNumber

def numericValue (value : Int) (scale : Nat) : Double :=
  let unit : Int := Int.pow 10 scale
  ((Double.ofInt (value.tmod unit)).div (Double.ofInt unit)).add (Double.ofInt (value.tdiv unit))

def momentOf? (days fraction scale : Nat) : Option Timestamp :=
  Timestamp.afterDay? days (fraction * Nat.pow 10 (9 - scale))

def Wire.cell : Wire → Cell
  | .null => .null
  | .integer value => .integer value
  | .single value => .double value.throughSingle
  | .double value => .double value
  | .bit value => .flag value
  | .text value => .text value
  | .guid bytes => .uuid bytes
  | .numeric value scale => .double (numericValue value scale)
  | .date days => .date (Calendar.ofDayNumber? days)
  | .dateTime days ticks =>
      .moment (Timestamp.afterDay? (firstDay + days) (ticks * 1000000000 / 300))
  | .smallDateTime days minutes =>
      .moment (Timestamp.afterDay? (firstDay + days) (minutes * 60000000000))
  | .dateTime2 days fraction scale => .moment (momentOf? days fraction scale)
  | .dateTimeOffset days fraction scale offset =>
      .moment ((momentOf? days fraction scale).bind fun t => t.shift? (-offset))
  | .unsupported => .null

theorem cell_date (days : Nat) :
    (Wire.date days).cell = (Postgres.Wire.date (days - Postgres.firstDay)).cell := by
  have hday : Postgres.firstDay + (days - Postgres.firstDay) = (days : Int) := by omega
  rw [Wire.cell, Postgres.Wire.cell, hday]

theorem cell_dateTime2 {days micros : Nat} (h : micros < 86400000000) :
    (Wire.dateTime2 days micros 6).cell =
      (Postgres.Wire.timestamp ((days - Postgres.firstDay) * 86400000000 + micros)).cell := by
  have hday : Postgres.firstDay +
      ((days - Postgres.firstDay) * 86400000000 + micros) / 86400000000 = (days : Int) := by omega
  have htime : (((days - Postgres.firstDay) * 86400000000 + micros) % 86400000000).toNat =
      micros := by omega
  rw [Wire.cell, Postgres.Wire.cell, momentOf?, Postgres.momentOf?, hday, htime]

end Mssql

namespace Storage

abbrev Wire : Dialect → Type
  | .postgres => Postgres.Wire
  | .tsql => Mssql.Wire

def Wire.cell : {d : Dialect} → Wire d → Cell
  | .postgres, value => Postgres.Wire.cell value
  | .tsql, value => Mssql.Wire.cell value

def Row.ofWire {d : Dialect} (row : List (String × Wire d)) : Row :=
  row.map fun (name, value) => (name, value.cell)

structure Server where
  link : Net.Link
  startFault : Option String
  pingFault : Option String
  answer : (d : Dialect) → Statement → Except String (List (List (String × Wire d)))

namespace Server

def away : Server := ⟨.unreachable, none, none, fun _ _ => .ok []⟩

def ask (server : Server) (d : Dialect) (failure : String → Failure) (statement : Statement) :
    Reply :=
  match server.answer d statement with
  | .ok rows => readRows (rows.map Row.ofWire)
  | .error m => .failed (failure m)

end Server
end Storage
end Rostering
