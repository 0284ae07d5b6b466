import Rostering.Roster.Catalogue
import Rostering.Text.Integer

namespace Rostering.Sql

open Roster (FieldKind)

inductive Dialect where
  | postgres | tsql
deriving DecidableEq, Repr

namespace Dialect

def name : Dialect → String
  | .postgres => "postgres"
  | .tsql => "mssql"

def ofName? (s : String) : Option Dialect :=
  [Dialect.postgres, .tsql].find? (fun d => d.name = s)

end Dialect

inductive Token where
  | word (text : String)
  | mark (text : String)
  | number (n : Nat)
  | literal (text : String)
  | name (ident : String)
  | param (position : Nat)
  | gap
deriving DecidableEq, Repr

def doubled (quote : Char) (cs : List Char) : List Char :=
  cs.flatMap fun c => if c = quote then [c, c] else [c]

def quoteName : Dialect → List Char → List Char
  | .postgres, cs => '"' :: (doubled '"' cs ++ ['"'])
  | .tsql, cs => '[' :: (doubled ']' cs ++ [']'])

def placeholder : Dialect → Nat → List Char
  | .postgres, n => '$' :: Text.digits n
  | .tsql, n => '@' :: 'P' :: Text.digits n

def Token.chars (d : Dialect) : Token → List Char
  | .word text => text.toList
  | .mark text => text.toList
  | .number n => Text.digits n
  | .literal text => '\'' :: (doubled '\'' text.toList ++ ['\''])
  | .name ident => quoteName d ident.toList
  | .param position => placeholder d position
  | .gap => [' ']

def spell (d : Dialect) (tokens : List Token) : List Char := tokens.flatMap (Token.chars d)

def spelled (d : Dialect) (tokens : List Token) : String := String.ofList (spell d tokens)

def phrase (words : List String) : List Token := List.intercalate [.gap] (words.map ([.word ·]))

theorem spell_cons (d : Dialect) (t : Token) (ts : List Token) :
    spell d (t :: ts) = t.chars d ++ spell d ts := by
  simp [spell]

structure Frame where
  before : List Token
  after : List Token
deriving DecidableEq, Repr

namespace Frame

def bare : Frame := ⟨[], []⟩

def around (f : Frame) (inner : List Token) : List Token := f.before ++ inner ++ f.after

def within (inner outer : Frame) : Frame :=
  ⟨outer.before ++ inner.before, inner.after ++ outer.after⟩

end Frame

def postgresType : FieldKind → String
  | .text => "text"
  | .boolean => "boolean"
  | .integer => "bigint"
  | .date => "date"
  | .timestamp => "timestamp"

def tsqlType : FieldKind → List Token
  | .text => [.word "nvarchar", .mark "(", .word "max", .mark ")"]
  | .boolean => [.word "bit"]
  | .integer => [.word "bigint"]
  | .date => [.word "date"]
  | .timestamp => [.word "datetime2"]

def castAfter (type : String) : Frame := ⟨[], [.mark "::", .word type]⟩

def castCall (type : List Token) : Frame :=
  ⟨[.word "CAST", .mark "("], [.gap, .word "AS", .gap] ++ type ++ [.mark ")"]⟩

def call (function : String) (arguments : List Token) : Frame :=
  ⟨[.word function, .mark "("], arguments ++ [.mark ")"]⟩

def argument (token : Token) : List Token := [.mark ",", .gap, token]

def caseSensitive : Frame := ⟨[], .gap :: phrase ["COLLATE", "Latin1_General_CS_AS"]⟩

def compareColumn : Dialect → FieldKind → Frame
  | .postgres, kind => castAfter (postgresType kind)
  | .tsql, .text => caseSensitive
  | .tsql, .boolean => Frame.bare
  | .tsql, kind => castCall (tsqlType kind)

def compareValue : Dialect → FieldKind → Frame
  | _, .text => Frame.bare
  | .postgres, kind => castAfter (postgresType kind)
  | .tsql, kind => castCall (tsqlType kind)

def patternColumn : Dialect → FieldKind → Frame
  | .postgres, .text => castAfter "text"
  | .postgres, .integer => castAfter "text"
  | .postgres, .boolean => (castAfter "boolean").within (castAfter "text")
  | .postgres, .date =>
      (castAfter "date").within (call "to_char" (argument (.literal "YYYY-MM-DD")))
  | .postgres, .timestamp =>
      (castAfter "timestamp").within
        (call "to_char" (argument (.literal "YYYY-MM-DD\"T\"HH24:MI:SS.MS")))
  | .tsql, .text => caseSensitive
  | .tsql, .boolean =>
      (castCall (tsqlType .boolean)).within
        ⟨[.word "CASE", .gap],
         [.gap, .word "WHEN", .gap, .number 1, .gap, .word "THEN", .gap, .literal "true",
          .gap, .word "WHEN", .gap, .number 0, .gap, .word "THEN", .gap, .literal "false",
          .gap, .word "END"]⟩
  | .tsql, .integer => castCall [.word "varchar", .mark "(", .number 20, .mark ")"]
  | .tsql, .date =>
      (castCall (tsqlType .date)).within
        ⟨[.word "CONVERT", .mark "(", .word "char", .mark "(", .number 10, .mark ")", .mark ",",
          .gap],
         argument (.number 23) ++ [.mark ")"]⟩
  | .tsql, .timestamp =>
      (castCall (tsqlType .timestamp)).within
        (call "FORMAT"
          (argument (.literal "yyyy-MM-ddTHH:mm:ss.fff") ++ argument (.literal "en-US")))

end Rostering.Sql
