import Rostering.Query.Filter
import Rostering.Query.Request
import Rostering.Sql.Token
import Rostering.Storage.Executor

namespace Rostering.Sql

open Query (Clause Comparison Connective Direction Fault Filter Request Selection)
open Roster (Catalogue Endpoint Resource)
open Storage (Bound Statement)

def isPatternMark : Dialect → Char → Bool
  | .postgres, c => c == '\\' || c == '%' || c == '_'
  | .tsql, c => c == '\\' || c == '%' || c == '_' || c == '['

def escapePattern (d : Dialect) (cs : List Char) : List Char :=
  cs.flatMap fun c => if isPatternMark d c then ['\\', c] else [c]

def containsPattern (d : Dialect) (needle : List Char) : List Char :=
  '%' :: (escapePattern d needle ++ ['%'])

def viewName (resource : Resource) : String := Text.lowerAscii resource.name

def qualified (qualifier ident : String) : List Token := [.name qualifier, .mark ".", .name ident]

def tableName (schema : String) (resource : Resource) : List Token :=
  qualified schema (viewName resource)

def columnName (resource : Resource) (field : String) : List Token :=
  qualified (viewName resource) field

def boundOf (d : Dialect) (c : Comparison) : Bound :=
  match c.operator with
  | .contains => .text (String.ofList (containsPattern d c.value.toList))
  | _ => .text c.value

def comparisonTokens (d : Dialect) (resource : Resource) (c : Comparison) (position : Nat) :
    List Token :=
  let column := columnName resource c.field
  match c.operator with
  | .contains =>
      (patternColumn d c.kind).around column ++
        [.gap, .word "LIKE", .gap, .param position, .gap, .word "ESCAPE", .gap, .literal "\\"]
  | op =>
      (compareColumn d c.kind).around column ++ [.gap, .mark op.sql, .gap] ++
        (compareValue d c.kind).around [.param position]

def alwaysTokens : List Token := [.number 1, .mark "=", .number 1]

def conditionTokens (d : Dialect) (resource : Resource) (connective : Connective) :
    Nat → List Comparison → List Token
  | _, [] => alwaysTokens
  | position, [c] => comparisonTokens d resource c position
  | position, c :: next :: rest =>
      comparisonTokens d resource c position ++ [.gap, .word connective.word, .gap] ++
        conditionTokens d resource connective (position + 1) (next :: rest)

structure Select where
  resource : Resource
  fields : List String
  connective : Connective
  comparisons : List Comparison
  restriction : Option Comparison
  order : List String
  direction : Direction
  limit : Nat
  offset : Nat
deriving DecidableEq, Repr

def orderFields (catalogue : Catalogue) (sort : List String) : List String :=
  match Text.firstOccurrences (sort.filter (· ∈ catalogue.selectable)) with
  | [] => [catalogue.defaultSort]
  | fields => fields

namespace Select

def ofRequest (endpoint : Endpoint) (request : Request) : Except Fault Select := do
  let filter ← Filter.parse request.filter
  let fields ← request.selection.resolve endpoint.catalogue.selectable
  let comparisons ← filter.check endpoint.catalogue
  return {
    resource := endpoint.resource
    fields := fields
    connective := filter.connective
    comparisons := comparisons
    restriction := endpoint.restriction?.map Comparison.ofRestriction
    order := orderFields endpoint.catalogue request.sort
    direction := request.direction
    limit := request.limit
    offset := request.offset }

def ofId (endpoint : Endpoint) (id : String) : Select where
  resource := endpoint.resource
  fields := endpoint.catalogue.selectable
  connective := .and
  comparisons := [⟨"sourcedId", .text, .eq, id⟩]
  restriction := endpoint.restriction?.map Comparison.ofRestriction
  order := orderFields endpoint.catalogue []
  direction := .ascending
  limit := 1
  offset := 0

end Select

def pageBound (n : Nat) : Bound := .integer (min n (Text.i64Limit - 1) : Nat)

def pageTokens : Dialect → Nat → List Token
  | .postgres, position =>
      [.word "LIMIT", .gap, .param position, .gap, .word "OFFSET", .gap, .param (position + 1)]
  | .tsql, position =>
      [.word "OFFSET", .gap, .param position, .gap, .word "ROWS", .gap, .word "FETCH", .gap,
       .word "NEXT", .gap, .param (position + 1), .gap, .word "ROWS", .gap, .word "ONLY"]

def pageBounds : Dialect → Nat → Nat → List Bound
  | .postgres, limit, offset => [pageBound limit, pageBound offset]
  | .tsql, limit, offset => [pageBound offset, pageBound limit]

def separated : List (List Token) → List Token := List.intercalate [.mark ",", .gap]

def projectionTokens (resource : Resource) (fields : List String) : List Token :=
  separated (fields.map (columnName resource))

def orderTokens (resource : Resource) (fields : List String) (direction : Direction) : List Token :=
  separated (fields.map fun field => columnName resource field ++ [.gap, .word direction.sql])

def renderOrder (d : Dialect) (catalogue : Catalogue) (sort : List String)
    (direction : Direction) : String :=
  spelled d (orderTokens catalogue.resource (orderFields catalogue sort) direction)

def grouped (inner : List Token) : List Token := .mark "(" :: (inner ++ [.mark ")"])

namespace Select

def allComparisons (s : Select) : List Comparison := s.comparisons ++ s.restriction.toList

def whereTokens (d : Dialect) (s : Select) : List Token :=
  let filter := grouped (conditionTokens d s.resource s.connective 1 s.comparisons)
  match s.restriction with
  | none => filter
  | some restriction =>
      filter ++ [.gap, .word "AND", .gap] ++
        grouped (comparisonTokens d s.resource restriction (s.comparisons.length + 1))

def tokens (d : Dialect) (schema : String) (s : Select) : List Token :=
  [.word "SELECT", .gap] ++ projectionTokens s.resource s.fields ++
    [.gap, .word "FROM", .gap] ++ tableName schema s.resource ++
    [.gap, .word "WHERE", .gap] ++ s.whereTokens d ++
    [.gap, .word "ORDER", .gap, .word "BY", .gap] ++
    orderTokens s.resource s.order s.direction ++ [.gap] ++
    pageTokens d (s.allComparisons.length + 1)

def params (d : Dialect) (s : Select) : List Bound :=
  s.allComparisons.map (boundOf d) ++ pageBounds d s.limit s.offset

def statement (d : Dialect) (schema : String) (s : Select) : Statement :=
  ⟨spelled d (s.tokens d schema), s.params d⟩

end Select

def renderMany (d : Dialect) (schema : String) (endpoint : Endpoint) (request : Request) :
    Except Fault Statement :=
  (Select.ofRequest endpoint request).map (Select.statement d schema)

def renderOne (d : Dialect) (schema : String) (endpoint : Endpoint) (id : String) : Statement :=
  (Select.ofId endpoint id).statement d schema

end Rostering.Sql
