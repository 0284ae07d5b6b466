import Rostering.Sql.Select

namespace Rostering.Sql

open Query (Comparison Fault Filter Request)
open Roster (Catalogue Endpoint Resource)
open Storage (Bound Statement)

structure Sink where
  params : List Bound
deriving DecidableEq, Repr

namespace Sink

def empty : Sink := ⟨[]⟩

def append (sink : Sink) (values : List Bound) : Sink := ⟨sink.params ++ values⟩

def next (sink : Sink) : Nat := sink.params.length + 1

end Sink

/-- Rendering binds values as it goes; a fault does not undo what was bound before it. -/
abbrev Rendering := ExceptT Fault (StateM Sink)

def Rendering.onto {α : Type} (r : Rendering α) (sink : Sink) : Except Fault α × Sink :=
  (ExceptT.run r).run sink

def Rendering.statement (d : Dialect) (r : Rendering (List Token)) : Except Fault Statement :=
  match r.onto .empty with
  | (.ok tokens, sink) => .ok ⟨spelled d tokens, sink.params⟩
  | (.error fault, _) => .error fault

def bindValue (value : Bound) : Rendering Nat :=
  modifyGet fun sink => (sink.next, sink.append [value])

def renderComparison (d : Dialect) (resource : Resource) (c : Comparison) :
    Rendering (List Token) := do
  return comparisonTokens d resource c (← bindValue (boundOf d c))

def renderFilter (d : Dialect) (catalogue : Catalogue) (filter : Filter) :
    Rendering (List Token) := do
  let checked ← filter.check catalogue
  if checked.isEmpty then return alwaysTokens
  let conditions ← checked.mapM (renderComparison d catalogue.resource)
  return List.intercalate [.gap, .word filter.connective.word, .gap] conditions

def renderWhere (d : Dialect) (endpoint : Endpoint) (filter : Filter) : Rendering (List Token) := do
  let condition ← renderFilter d endpoint.catalogue filter
  match endpoint.restriction? with
  | none => return grouped condition
  | some restriction =>
      let fixed ← renderComparison d endpoint.resource (.ofRestriction restriction)
      return grouped condition ++ [.gap, .word "AND", .gap] ++ grouped fixed

def renderPage (d : Dialect) (limit offset : Nat) : Rendering (List Token) :=
  modifyGet fun sink => (pageTokens d sink.next, sink.append (pageBounds d limit offset))

def renderSelect (d : Dialect) (schema : String) (endpoint : Endpoint) (request : Request)
    (filter : Filter) (fields : List String) : Rendering (List Token) := do
  let condition ← renderWhere d endpoint filter
  let page ← renderPage d request.limit request.offset
  let order := orderFields endpoint.catalogue request.sort
  return [.word "SELECT", .gap] ++ projectionTokens endpoint.resource fields ++
    [.gap, .word "FROM", .gap] ++ tableName schema endpoint.resource ++
    [.gap, .word "WHERE", .gap] ++ condition ++ [.gap, .word "ORDER", .gap, .word "BY", .gap] ++
    orderTokens endpoint.resource order request.direction ++ [.gap] ++ page

def renderRequest (d : Dialect) (schema : String) (endpoint : Endpoint) (request : Request) :
    Rendering (List Token) := do
  let filter ← Filter.parse request.filter
  let fields ← request.selection.resolve endpoint.catalogue.selectable
  renderSelect d schema endpoint request filter fields

def renderLookup (d : Dialect) (schema : String) (endpoint : Endpoint) (id : String) :
    Rendering (List Token) :=
  renderSelect d schema endpoint { Request.usual with limit := 1 }
    (.single ⟨"sourcedId", .eq, id⟩) endpoint.catalogue.selectable

end Rostering.Sql
