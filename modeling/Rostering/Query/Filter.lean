import Rostering.Roster.Endpoint
import Rostering.Storage.Executor

namespace Rostering.Query

open Roster (Catalogue FieldKind Restriction)

inductive Fault where
  | filterSyntax (clause : String)
  | mixedConnectives (filter : String)
  | filterField (field : String)
  | filterValue (field value : String) (kind : FieldKind)
  | selection (fields allowed : List String)
  | storage (failure : Storage.Failure)
deriving DecidableEq, Repr

namespace Fault

def kind : Fault → String
  | .filterSyntax _ => "FilterSyntax"
  | .mixedConnectives _ => "MixedConnectives"
  | .filterField _ => "InvalidFilterField"
  | .filterValue _ _ _ => "InvalidFilterValue"
  | .selection _ _ => "InvalidSelectionField"
  | .storage _ => "Storage"

def message : Fault → String
  | .filterSyntax clause =>
      "Invalid filter clause: " ++ clause ++ ". Supported operators: =, !=, >, >=, <, <=, ~"
  | .mixedConnectives filter =>
      "Invalid filter clause: " ++ filter ++ ". A filter may use AND or OR, not both"
  | .filterField field => "Field '" ++ field ++ "' is not allowed for filtering"
  | .filterValue field value kind =>
      "Invalid filter clause: value '" ++ value ++ "' for field '" ++ field ++ "' must be " ++
        kind.expected
  | .selection fields allowed =>
      "Invalid fields: " ++ String.intercalate ", " fields ++ ". Allowed fields: " ++
        String.intercalate ", " allowed
  | .storage failure => failure.message

def badFilter : String := "invalid_filter_field"

def badSelection : String := "invalid_selection_field"

def minorCode? : Fault → Option String
  | .selection _ _ => some badSelection
  | .storage _ => none
  | _ => some badFilter

end Fault

inductive Operator where
  | eq | notEq | gt | gte | lt | lte | contains
deriving DecidableEq, Repr

namespace Operator

def token : Operator → String
  | .eq => "="
  | .notEq => "!="
  | .gt => ">"
  | .gte => ">="
  | .lt => "<"
  | .lte => "<="
  | .contains => "~"

def sql : Operator → String
  | .eq => "="
  | .notEq => "<>"
  | .gt => ">"
  | .gte => ">="
  | .lt => "<"
  | .lte => "<="
  | .contains => "LIKE"

def priority : List Operator := [.notEq, .gte, .lte, .eq, .gt, .lt, .contains]

def ofToken? (token : String) : Option Operator := priority.find? (fun op => op.token = token)

theorem mem_priority (op : Operator) : op ∈ priority := by
  cases op <;> decide

theorem token_ne_nil (op : Operator) : op.token.toList ≠ [] := by
  cases op <;> decide

end Operator

inductive Connective where
  | and | or
deriving DecidableEq, Repr

namespace Connective

def word : Connective → String
  | .and => "AND"
  | .or => "OR"

def token (c : Connective) : List Char := ' ' :: (c.word.toList ++ [' '])

end Connective

structure Clause where
  field : String
  operator : Operator
  value : String
deriving DecidableEq, Repr

structure Filter where
  connective : Connective
  clauses : List Clause
deriving DecidableEq, Repr

def isQuotedBy (quote : Char) (cs : List Char) : Bool :=
  2 ≤ cs.length && cs.head? == some quote && cs.getLast? == some quote

def unquote (cs : List Char) : List Char :=
  if isQuotedBy '\'' cs || isQuotedBy '"' cs then (cs.drop 1).dropLast else cs

def cutAt (segment : List Char) (op : Operator) : Option (Operator × List Char × List Char) :=
  match Text.splitOn op.token.toList segment with
  | [field, value] => some (op, field, value)
  | _ => none

def Clause.parse (segment : List Char) : Except Fault Clause :=
  match Operator.priority.findSome? (cutAt segment) with
  | none => .error (.filterSyntax (String.ofList segment))
  | some (op, field, value) =>
      let field := Text.trim field
      if field.isEmpty then .error (.filterSyntax (String.ofList segment))
      else .ok ⟨String.ofList field, op, String.ofList (unquote (Text.trim value))⟩

def Clause.chars (c : Clause) : List Char :=
  c.field.toList ++ (c.operator.token.toList ++ '\'' :: (c.value.toList ++ ['\'']))

def Clause.text (c : Clause) : String := String.ofList c.chars

namespace Filter

def none : Filter := ⟨.and, []⟩

def single (clause : Clause) : Filter := ⟨.and, [clause]⟩

def isEmpty (f : Filter) : Bool := f.clauses.isEmpty

def parseChars (cs : List Char) : Except Fault Filter :=
  if cs.all Text.isBlank then .ok none
  else
    let hasAnd := Text.occursIn Connective.and.token cs
    let hasOr := Text.occursIn Connective.or.token cs
    if hasAnd && hasOr then .error (.mixedConnectives (String.ofList cs))
    else
      let connective := if hasOr then Connective.or else Connective.and
      match (Text.splitOn connective.token cs).mapM Clause.parse with
      | .ok clauses => .ok ⟨connective, clauses⟩
      | .error fault => .error fault

def parse (s : String) : Except Fault Filter := parseChars s.toList

def chars (f : Filter) : List Char :=
  List.intercalate f.connective.token (f.clauses.map Clause.chars)

def text (f : Filter) : String := String.ofList f.chars

theorem parse_of_blank {s : String} (h : s.toList.all Text.isBlank = true) :
    parse s = .ok none := by
  simp [parse, parseChars, h]

end Filter

structure Comparison where
  field : String
  kind : FieldKind
  operator : Operator
  value : String
deriving DecidableEq, Repr

def Clause.check (catalogue : Catalogue) (clause : Clause) : Except Fault Comparison :=
  if clause.field ∈ catalogue.filterable then
    let kind := catalogue.kindOf clause.field
    match clause.operator with
    | .contains => .ok ⟨clause.field, kind, .contains, clause.value⟩
    | op =>
        match kind.normalize clause.value with
        | some literal => .ok ⟨clause.field, kind, op, literal⟩
        | none => .error (.filterValue clause.field clause.value kind)
  else .error (.filterField clause.field)

def Filter.check (catalogue : Catalogue) (filter : Filter) : Except Fault (List Comparison) :=
  filter.clauses.mapM (Clause.check catalogue)

def Comparison.ofRestriction (r : Restriction) : Comparison := ⟨r.field, .text, .eq, r.value⟩

end Rostering.Query
