import Rostering.Proofs.Sql.Paging
import Rostering.Service

namespace Rostering

open Query (Request)
open Roster (Endpoint)
open Sql (Dialect boundAt pageCap readStatement renderMany)
open Storage (Bound Executor Statement)

def natural? (bound : Bound) : Option Nat := bound.integer?.bind Int.toNat?

def Storage.Statement.page? (d : Dialect) (st : Statement) : Option (Nat × Nat) := do
  let (_, page) ← readStatement d st.sql.toList
  let limit ← (boundAt st page.limitAt).bind natural?
  let offset ← (boundAt st page.offsetAt).bind natural?
  return (limit, offset)

def Storage.Executor.holding (d : Dialect) (rows : List Record) : Executor where
  name := d.name
  run st :=
    match st.page? d with
    | some (limit, offset) => .records ((rows.drop offset).take limit)
    | none => .failed (.query "syntax error")
  ping := some (.ok ())

def Query.Request.page (request : Request) (limit number : Nat) : Request :=
  { request with limit := limit, offset := number * limit }

theorem natural?_integer (n : Nat) : natural? (.integer n) = some n := by
  simp [natural?, Bound.integer?, Int.toNat?]

namespace Sql

variable {d : Dialect} {schema : String} {endpoint : Endpoint} {request : Request} {st : Statement}

theorem page?_renderMany (h : renderMany d schema endpoint request = .ok st) :
    st.page? d = some (pageCap request.limit, pageCap request.offset) := by
  obtain ⟨reading, page, hread, -, -, hlimit, hoffset⟩ := read_renderMany h
  simp [Statement.page?, hread, hlimit, hoffset, natural?_integer]

theorem renderMany_page (h : renderMany d schema endpoint request = .ok st) (limit number : Nat) :
    ∃ st', renderMany d schema endpoint (request.page limit number) = .ok st' := by
  obtain ⟨s, hs, -⟩ := renderMany_eq_ok h
  have hpage : Select.ofRequest endpoint (request.page limit number) =
      .ok { s with limit := limit, offset := number * limit } := by
    simp only [Select.ofRequest, bind_eq_ok_iff] at hs ⊢
    obtain ⟨filter, hfilter, fields, hfields, comparisons, hcomparisons, heq⟩ := hs
    refine ⟨filter, hfilter, fields, hfields, comparisons, hcomparisons, ?_⟩
    rw [← Except.ok.inj heq]
    rfl
  exact ⟨_, by rw [renderMany, hpage]; rfl⟩

theorem drop_take_pageCap {rows : List Record} (hcount : rows.length < Text.i64Limit)
    (limit offset : Nat) :
    (rows.drop (pageCap offset)).take (pageCap limit) = (rows.drop offset).take limit := by
  have hdrop : rows.drop (pageCap offset) = rows.drop offset := by
    rw [List.drop_eq_drop_iff]
    simp only [pageCap]
    omega
  rw [hdrop, List.take_eq_take_iff, List.length_drop]
  simp only [pageCap]
  omega

end Sql

namespace Service

variable {d : Dialect} {schema : String} {endpoint : Endpoint} {request : Request} {st : Statement}
  {rows : List Record}

theorem queryMany_holding (h : renderMany d schema endpoint request = .ok st)
    (hcount : rows.length < Text.i64Limit) :
    (queryMany ⟨d, schema, .holding d rows⟩ endpoint request).answer =
      some (.ok (((rows.drop request.offset).take request.limit).map Shape.normalize)) := by
  simp only [queryMany, h, execute, Executor.holding, Sql.page?_renderMany h,
    Sql.drop_take_pageCap hcount]

theorem flatten_pages (rows : List Record) (limit count : Nat) :
    ((List.range count).map fun number => (rows.drop (number * limit)).take limit).flatten =
      rows.take (count * limit) := by
  induction count with
  | zero => simp
  | succ count ih =>
      rw [List.range_succ, List.map_append, List.flatten_append, ih, Nat.succ_mul, List.take_add]
      simp

theorem pages_tile (d : Dialect) (schema : String) (endpoint : Endpoint) (request : Request)
    (st : Statement) (hvalid : renderMany d schema endpoint request = .ok st) (rows : List Record)
    (hcount : rows.length < Text.i64Limit) (limit k : Nat) :
    ∃ pages : List (List Record),
      (List.range (k + 1)).map (fun number =>
          (queryMany ⟨d, schema, .holding d rows⟩ endpoint (request.page limit number)).answer) =
        pages.map (fun page => some (.ok page)) ∧
      pages.flatten = (rows.take ((k + 1) * limit)).map Shape.normalize := by
  refine ⟨(List.range (k + 1)).map fun number =>
    ((rows.drop (number * limit)).take limit).map Shape.normalize, ?_, ?_⟩
  · rw [List.map_map]
    apply List.map_congr_left
    intro number _
    obtain ⟨st', hpage⟩ := Sql.renderMany_page hvalid limit number
    exact queryMany_holding hpage hcount
  · rw [← flatten_pages, List.map_flatten, List.map_map]
    rfl

theorem students_tile :
    let request := { Request.usual with filter := "givenName~'an'" }
    let rows : List Record := [[("sourcedId", .str "a")], [("sourcedId", .str "b")]]
    let limit := 9223372036854775808
    (∃ st, renderMany .tsql "oneroster12" .students request = .ok st) ∧
      rows.length < Text.i64Limit ∧
      ∃ pages : List (List Record),
        (List.range (1 + 1)).map (fun number =>
            (queryMany ⟨.tsql, "oneroster12", .holding .tsql rows⟩ .students
              (request.page limit number)).answer) = pages.map (fun page => some (.ok page)) ∧
        pages.flatten = (rows.take ((1 + 1) * limit)).map Shape.normalize := by
  intro request rows limit
  have hcount : rows.length < Text.i64Limit := by decide
  obtain ⟨st, hvalid⟩ : ∃ st, renderMany .tsql "oneroster12" .students
      { Request.usual with filter := "givenName~'an'" } = .ok st := ⟨_, rfl⟩
  exact ⟨⟨st, hvalid⟩, hcount,
    pages_tile .tsql "oneroster12" .students request st hvalid rows hcount limit 1⟩

end Service
end Rostering
