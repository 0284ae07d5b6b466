import Rostering.Proofs.Sql.Agreement
import Rostering.Proofs.Sql.Ordering

namespace Rostering.Sql

open Query (Direction Request)
open Roster (Catalogue Endpoint)
open Storage (Bound Statement)

/-- What a statement is executed on: the rows of a view that meet its condition. Their identifiers
differ, and engines count rows with signed numbers of 64 bits. -/
structure Dataset (view : String) (Row V : Type) where
  cells : Cells Row V
  rows : List Row
  identified : (rows.map (cells.value · (idColumn view))).Nodup
  counted : rows.length < Text.i64Limit

def Dataset.id {view : String} {Row V : Type} (data : Dataset view Row V) (row : Row) : V :=
  data.cells.value row (idColumn view)

/-- A result that an engine may give for a statement: a page of some arrangement that the sort keys
allow. Which one it is when they allow several is up to the engine. -/
def Delivers {view : String} {Row V : Type} (d : Dialect) (st : Statement)
    (data : Dataset view Row V) (result : List Row) : Prop :=
  ∃ (reading : Reading) (page : Page) (limit offset : Nat) (arranged : List Row),
    readStatement d st.sql.toList = some (reading, page) ∧
    boundAt st page.limitAt = some (.integer limit) ∧
    boundAt st page.offsetAt = some (.integer offset) ∧
    arranged.Perm data.rows ∧ data.cells.Sorted reading.order arranged ∧
    result = (arranged.drop offset).take limit

theorem orderFields_of_none {catalogue : Catalogue} {sort : List String}
    (h : ∀ f ∈ sort, f ∉ catalogue.selectable) :
    orderFields catalogue sort = [catalogue.defaultSort] := by
  have hnone : sort.filter (· ∈ catalogue.selectable) = [] := by
    simpa [List.filter_eq_nil_iff] using h
  rw [orderFields, hnone]
  rfl

theorem mem_orderFields_of_some {catalogue : Catalogue} {sort : List String} {f : String}
    (hf : f ∈ sort) (hselectable : f ∈ catalogue.selectable) (g : String) :
    g ∈ orderFields catalogue sort ↔ g ∈ sort ∧ g ∈ catalogue.selectable := by
  have hmem (x : String) :
      x ∈ Text.firstOccurrences (sort.filter (· ∈ catalogue.selectable)) ↔
        x ∈ sort ∧ x ∈ catalogue.selectable := by
    simp [Text.mem_firstOccurrences]
  unfold orderFields
  split
  · rename_i hnil
    have hsome := (hmem f).mpr ⟨hf, hselectable⟩
    rw [hnil] at hsome
    exact absurd hsome List.not_mem_nil
  · exact hmem g

def SortsById (endpoint : Endpoint) (request : Request) : Prop :=
  "sourcedId" ∈ request.sort ∨ ∀ f ∈ request.sort, f ∉ endpoint.catalogue.selectable

theorem sourcedId_mem_orderFields_iff (endpoint : Endpoint) (request : Request) :
    "sourcedId" ∈ orderFields endpoint.catalogue request.sort ↔ SortsById endpoint request := by
  have hselectable : "sourcedId" ∈ endpoint.catalogue.selectable := by
    cases endpoint <;> decide
  have hdefault : endpoint.catalogue.defaultSort = "sourcedId" :=
    Roster.catalogue_defaultSort endpoint.resource
  by_cases hnone : ∀ f ∈ request.sort, f ∉ endpoint.catalogue.selectable
  · rw [orderFields_of_none hnone, hdefault]
    exact iff_of_true (by simp) (.inr hnone)
  · push Not at hnone
    obtain ⟨f, hf, hmem⟩ := hnone
    rw [mem_orderFields_of_some hf hmem]
    constructor
    · exact fun h => .inl h.1
    · rintro (h | h)
      · exact ⟨h, hselectable⟩
      · exact absurd hmem (h f hf)

def sortKeys (endpoint : Endpoint) (request : Request) : SortKeys :=
  (orderFields endpoint.catalogue request.sort).map fun f =>
    ((viewName endpoint.resource, f), request.direction)

theorem idColumn_mem_sortKeys_iff (endpoint : Endpoint) (request : Request) :
    idColumn (viewName endpoint.resource) ∈ (sortKeys endpoint request).map (·.1) ↔
      SortsById endpoint request := by
  simp [sortKeys, idColumn, ← sourcedId_mem_orderFields_iff]

def pageCap (n : Nat) : Nat := min n (Text.i64Limit - 1)

theorem bound_inj {n m : Nat} (h : some (Bound.integer n) = some (Bound.integer m)) : n = m := by
  have hcast : (n : Int) = m := by simpa using h
  omega

section Rendered

variable {d : Dialect} {schema : String} {endpoint : Endpoint} {request : Request} {st : Statement}

theorem read_renderMany (h : renderMany d schema endpoint request = .ok st) :
    ∃ reading page, readStatement d st.sql.toList = some (reading, page) ∧
      reading.view = viewName endpoint.resource ∧ reading.order = sortKeys endpoint request ∧
      boundAt st page.limitAt = some (.integer (pageCap request.limit)) ∧
      boundAt st page.offsetAt = some (.integer (pageCap request.offset)) := by
  obtain ⟨s, hs, rfl⟩ := renderMany_eq_ok h
  obtain ⟨filter, fields, cs, -, -, -, rfl⟩ := Select.ofRequest_eq_ok hs
  obtain ⟨hlimit, hoffset⟩ := Select.boundAt_page
    (Select.assemble endpoint request filter.connective fields cs) d schema
  exact ⟨_, _, Select.readStatement_statement d schema _, rfl, rfl, hlimit, hoffset⟩

variable {Row V : Type} {data : Dataset (viewName endpoint.resource) Row V}

theorem Delivers.arranged {result : List Row} (h : Delivers d st data result)
    (hrender : renderMany d schema endpoint request = .ok st) :
    ∃ arranged : List Row, arranged.Perm data.rows ∧
      data.cells.Sorted (sortKeys endpoint request) arranged ∧
      result = (arranged.drop (pageCap request.offset)).take (pageCap request.limit) := by
  obtain ⟨reading, page, limit, offset, arranged, hread, hlimit, hoffset, hperm, hsorted, rfl⟩ := h
  obtain ⟨reading', page', hread', -, horder, hlimit', hoffset'⟩ := read_renderMany hrender
  obtain ⟨rfl, rfl⟩ : reading = reading' ∧ page = page' := by
    simpa using hread.symm.trans hread'
  have hlimits : limit = pageCap request.limit := bound_inj (hlimit.symm.trans hlimit')
  have hoffsets : offset = pageCap request.offset := bound_inj (hoffset.symm.trans hoffset')
  exact ⟨arranged, hperm, horder ▸ hsorted, by rw [hlimits, hoffsets]⟩

theorem exists_delivers (hrender : renderMany d schema endpoint request = .ok st)
    {arranged : List Row} (hperm : arranged.Perm data.rows)
    (hsorted : data.cells.Sorted (sortKeys endpoint request) arranged) :
    Delivers d st data
      ((arranged.drop (pageCap request.offset)).take (pageCap request.limit)) := by
  obtain ⟨reading, page, hread, -, horder, hlimit, hoffset⟩ := read_renderMany hrender
  exact ⟨reading, page, _, _, arranged, hread, hlimit, hoffset, hperm, horder ▸ hsorted, rfl⟩

theorem SortsById.arranged_unique (h : SortsById endpoint request) {arranged arranged' : List Row}
    (hperm : arranged.Perm data.rows) (hperm' : arranged'.Perm data.rows)
    (hsorted : data.cells.Sorted (sortKeys endpoint request) arranged)
    (hsorted' : data.cells.Sorted (sortKeys endpoint request) arranged') : arranged = arranged' :=
  Cells.Sorted.unique data.cells ((idColumn_mem_sortKeys_iff endpoint request).mpr h)
    data.identified hperm hperm' hsorted hsorted'

theorem not_mem_next_page {rows : List Row} (hnodup : rows.Nodup)
    (hcount : rows.length < Text.i64Limit) {limit offset : Nat} {row : Row}
    (h : row ∈ (rows.drop (pageCap offset)).take (pageCap limit)) :
    row ∉ rows.drop (pageCap (offset + limit)) := by
  intro hnext
  have hlater : row ∈ (rows.drop (pageCap offset)).drop (pageCap limit) := by
    rw [List.drop_drop]
    by_cases hfits : offset + limit < Text.i64Limit
    -- Nothing is cut off, so the second page begins where the first one ends.
    · have hsum : pageCap (offset + limit) = pageCap offset + pageCap limit := by
        simp only [pageCap]
        omega
      rwa [hsum] at hnext
    -- The second page begins behind the last row.
    · have hend : rows.length ≤ pageCap (offset + limit) := by
        simp only [pageCap]
        omega
      rw [List.drop_eq_nil_of_le hend] at hnext
      exact absurd hnext List.not_mem_nil
  have hsplit : ((rows.drop (pageCap offset)).take (pageCap limit) ++
      (rows.drop (pageCap offset)).drop (pageCap limit)).Nodup := by
    rw [List.take_append_drop]
    exact hnodup.sublist (List.drop_sublist _ _)
  exact (List.nodup_append.mp hsplit).2.2 row h row hlater rfl

end Rendered

theorem order_determined (d : Dialect) (schema : String) (endpoint : Endpoint) (request : Request)
    (st : Statement) (hrender : renderMany d schema endpoint request = .ok st) :
    (∃ reading page, readStatement d st.sql.toList = some (reading, page) ∧
      (Determines (viewName endpoint.resource) reading.order ↔ SortsById endpoint request)) ∧
    (SortsById endpoint request →
      ∀ (Row V : Type) (data : Dataset (viewName endpoint.resource) Row V) (page : List Row),
        Delivers d st data page →
        (∀ next page', renderMany d schema endpoint
              { request with offset := request.offset + request.limit } = .ok next →
            Delivers d next data page' →
            ∀ a ∈ page, ∀ b ∈ page', data.id a ≠ data.id b) ∧
          ∀ d' st' page', renderMany d' schema endpoint request = .ok st' →
            Delivers d' st' data page' → page = page') := by
  constructor
  · obtain ⟨reading, page, hread, -, horder, -, -⟩ := read_renderMany hrender
    refine ⟨reading, page, hread, ?_⟩
    rw [horder, determines_iff, idColumn_mem_sortKeys_iff]
  · intro hsort Row V data page hpage
    obtain ⟨arranged, hperm, hsorted, rfl⟩ := hpage.arranged hrender
    constructor
    · intro next page' hnext hpage' a ha b hb hid
      obtain ⟨arranged', hperm', hsorted', rfl⟩ := hpage'.arranged hnext
      obtain rfl := hsort.arranged_unique hperm hperm' hsorted hsorted'
      have ha' : a ∈ data.rows := hperm.subset (List.mem_of_mem_drop (List.mem_of_mem_take ha))
      have hb' : b ∈ data.rows := hperm.subset (List.mem_of_mem_drop (List.mem_of_mem_take hb))
      obtain rfl : a = b := List.inj_on_of_nodup_map data.identified ha' hb' hid
      have hnodup : arranged.Nodup := hperm.nodup_iff.mpr data.identified.of_map
      have hcount : arranged.length < Text.i64Limit := hperm.length_eq ▸ data.counted
      exact not_mem_next_page hnodup hcount ha (List.mem_of_mem_take hb)
    · intro d' st' page' hother hpage'
      obtain ⟨arranged', hperm', hsorted', rfl⟩ := hpage'.arranged hother
      rw [hsort.arranged_unique hperm hperm' hsorted hsorted']

def twinData (view : String) : Dataset view Bool Nat where
  cells := twins (idColumn view)
  rows := [false, true]
  identified := by simp [twins]
  counted := by decide

theorem orgs_by_name_and_id :
    let request := { Request.usual with sort := ["name", "sourcedId"], limit := 1 }
    let data := twinData (viewName Endpoint.orgs.resource)
    ∃ first second, renderMany .postgres "oneroster12" .orgs request = .ok first ∧
      renderMany .postgres "oneroster12" .orgs { request with offset := 0 + 1 } = .ok second ∧
      (∃ reading page, readStatement .postgres first.sql.toList = some (reading, page) ∧
        (Determines (viewName Endpoint.orgs.resource) reading.order ↔ SortsById .orgs request)) ∧
      SortsById .orgs request ∧ Delivers .postgres first data [false] ∧
      Delivers .postgres second data [true] ∧ data.id false ≠ data.id true := by
  intro request data
  have hkeys : sortKeys .orgs request =
      [((viewName Endpoint.orgs.resource, "name"), .ascending),
        (idColumn (viewName Endpoint.orgs.resource), .ascending)] := by decide
  have hsorted : data.cells.Sorted (sortKeys .orgs request) [false, true] := by
    have hname : data.cells.value false (viewName Endpoint.orgs.resource, "name") =
        data.cells.value true (viewName Endpoint.orgs.resource, "name") := by decide
    have hid : (data.cells.value false (idColumn (viewName Endpoint.orgs.resource)) : Nat) <
        data.cells.value true (idColumn (viewName Endpoint.orgs.resource)) := by decide
    rw [hkeys]
    exact List.pairwise_pair.mpr (.inr ⟨hname, .inl hid⟩)
  have hsort : SortsById .orgs request := .inl (by decide)
  obtain ⟨first, hfirst⟩ : ∃ st, renderMany .postgres "oneroster12" .orgs request = .ok st :=
    ⟨_, rfl⟩
  obtain ⟨second, hsecond⟩ :
      ∃ st, renderMany .postgres "oneroster12" .orgs { request with offset := 0 + 1 } = .ok st :=
    ⟨_, rfl⟩
  have hpage : Delivers .postgres first data [false] :=
    exists_delivers hfirst (.refl _) hsorted
  have hnext : Delivers .postgres second data [true] :=
    exists_delivers hsecond (.refl _) hsorted
  obtain ⟨hreads, hpages⟩ := order_determined .postgres "oneroster12" .orgs request first hfirst
  obtain ⟨hdisjoint, -⟩ := hpages hsort Bool Nat data [false] hpage
  exact ⟨first, second, hfirst, hsecond, hreads, hsort, hpage, hnext,
    hdisjoint second [true] hsecond hnext false (by simp) true (by simp)⟩

theorem orgs_by_name_overlap :
    let request := { Request.usual with sort := ["name"], limit := 1 }
    let data := twinData (viewName Endpoint.orgs.resource)
    ∃ first second, renderMany .postgres "oneroster12" .orgs request = .ok first ∧
      renderMany .postgres "oneroster12" .orgs { request with offset := 1 } = .ok second ∧
      (∃ reading page, readStatement .postgres first.sql.toList = some (reading, page) ∧
        data.cells.Sorted reading.order [false, true] ∧
        data.cells.Sorted reading.order [true, false] ∧
        ¬ Determines (viewName Endpoint.orgs.resource) reading.order) ∧
      Delivers .postgres first data [false] ∧ Delivers .postgres second data [false] := by
  intro request data
  have hsort : ¬ SortsById .orgs request := by
    rintro (h | h)
    · exact absurd h (by decide)
    · exact h "name" (by simp [request]) (by decide)
  have hid : idColumn (viewName Endpoint.orgs.resource) ∉ (sortKeys .orgs request).map (·.1) :=
    fun h => hsort ((idColumn_mem_sortKeys_iff .orgs request).mp h)
  have hsorted (rows : List Bool) : data.cells.Sorted (sortKeys .orgs request) rows :=
    twins_sorted hid rows
  obtain ⟨first, hfirst⟩ : ∃ st, renderMany .postgres "oneroster12" .orgs request = .ok st :=
    ⟨_, rfl⟩
  obtain ⟨second, hsecond⟩ :
      ∃ st, renderMany .postgres "oneroster12" .orgs { request with offset := 1 } = .ok st :=
    ⟨_, rfl⟩
  obtain ⟨reading, page, hread, -, horder, -, -⟩ := read_renderMany hfirst
  refine ⟨first, second, hfirst, hsecond, ⟨reading, page, hread, ?_, ?_, ?_⟩, ?_, ?_⟩
  · exact horder ▸ hsorted _
  · exact horder ▸ hsorted _
  · rwa [horder, determines_iff]
  · exact exists_delivers hfirst (.refl _) (hsorted [false, true])
  · exact exists_delivers hsecond (.swap _ _ _) (hsorted [true, false])

end Rostering.Sql
