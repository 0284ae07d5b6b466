import Rostering.Proofs.Query.Checking
import Rostering.Proofs.Sql.Contents

namespace Rostering.Sql

open Query (Checked Clause Comparison Filter Request)
open Roster (Catalogue Endpoint)
open Storage (Bound Statement)

theorem positions_eq_nil {ts : List Token} (h : ∀ t ∈ ts, t.param? = none) : positions ts = [] :=
  List.filterMap_eq_nil_iff.mpr h

theorem positions_grouped (ts : List Token) : positions (grouped ts) = positions ts := by
  have hclose : positions [Token.mark ")"] = [] := rfl
  change positions (ts ++ [.mark ")"]) = _
  rw [positions_append, hclose, List.append_nil]

namespace Select

def beforeTable (s : Select) : List Token :=
  [.word "SELECT", .gap] ++ projectionTokens s.resource s.fields ++ [.gap]

def afterTable (d : Dialect) (s : Select) : List Token :=
  [.gap, .word "WHERE", .gap] ++ s.whereTokens d ++ [.gap, .word "ORDER", .gap, .word "BY", .gap] ++
    orderTokens s.resource s.order s.direction ++ [.gap] ++
    pageTokens d (s.allComparisons.length + 1)

theorem lexemes_tokens (d : Dialect) (schema : String) (s : Select) :
    lexemes (s.tokens d schema) = lexemes s.beforeTable ++
      Token.word "FROM" :: .name schema :: .mark "." :: .name (viewName s.resource) ::
        lexemes (s.afterTable d) := by
  have htokens : s.tokens d schema = s.beforeTable ++
      [.word "FROM", .gap, .name schema, .mark ".", .name (viewName s.resource)] ++
        s.afterTable d := by
    simp [tokens, beforeTable, afterTable, tableName, qualified]
  rw [htokens, lexemes_append, lexemes_append]
  simp [lexemes, Token.isGap]

theorem mem_beforeTable {s : Select} {t : Token} (h : t ∈ s.beforeTable) :
    t ∈ [.word "SELECT", .gap, .mark ",", .mark ".", .name (viewName s.resource)] ∨
      ∃ f ∈ s.fields, t = .name f := by
  simp only [beforeTable, List.mem_append, List.mem_cons, List.not_mem_nil, or_false] at h
  rcases h with ((rfl | rfl) | h) | rfl
  · simp
  · simp
  · rcases mem_projectionTokens h with h | h
    · simp only [List.mem_cons, List.not_mem_nil, or_false] at h ⊢
      tauto
    · exact .inr h
  · simp

theorem mem_afterTable {d : Dialect} {s : Select} {t : Token} (h : t ∈ s.afterTable d) :
    t ∈ s.whereTokens d ∨ t ∈ orderTokens s.resource s.order s.direction ∨
      t ∈ pageTokens d (s.allComparisons.length + 1) ∨
      t ∈ [.word "WHERE", .word "ORDER", .word "BY", .gap] := by
  simp only [afterTable, List.mem_append, List.mem_cons, List.not_mem_nil, or_false] at h ⊢
  tauto

theorem positions_beforeTable (s : Select) : positions s.beforeTable = [] := by
  apply positions_eq_nil
  intro t ht
  rcases mem_beforeTable ht with ht | ⟨f, -, rfl⟩
  · simp only [List.mem_cons, List.not_mem_nil, or_false] at ht
    rcases ht with rfl | rfl | rfl | rfl | rfl <;> rfl
  · rfl

theorem positions_whereTokens (d : Dialect) (s : Select) :
    positions (s.whereTokens d) = List.range' 1 s.allComparisons.length := by
  unfold whereTokens allComparisons
  cases s.restriction with
  | none => simp [positions_grouped, positions_conditionTokens]
  | some r =>
      have hand : positions [.gap, .word "AND", .gap] = [] := rfl
      simp only [positions_append, positions_grouped, positions_conditionTokens, hand,
        positions_comparisonTokens, List.append_nil, Option.toList_some, List.length_append,
        List.length_singleton]
      rw [List.range'_1_concat, Nat.add_comm 1]

theorem positions_afterTable (d : Dialect) (s : Select) :
    positions (s.afterTable d) = List.range' 1 (s.allComparisons.length + 2) := by
  have horder : positions (orderTokens s.resource s.order s.direction) = [] := by
    apply positions_eq_nil
    intro t ht
    rcases mem_orderTokens ht with ht | ⟨f, -, rfl⟩
    · simp only [List.mem_cons, List.not_mem_nil, or_false] at ht
      rcases ht with rfl | rfl | rfl | rfl | rfl <;> rfl
    · rfl
  have hpage (position : Nat) : positions (pageTokens d position) = [position, position + 1] := by
    cases d <;> rfl
  have hgap : positions [Token.gap] = [] := rfl
  have hwhere : positions [Token.gap, .word "WHERE", .gap] = [] := rfl
  have hby : positions [Token.gap, .word "ORDER", .gap, .word "BY", .gap] = [] := rfl
  simp only [afterTable, positions_append, hwhere, hby, hgap, horder, hpage,
    positions_whereTokens, List.nil_append, List.append_nil]
  rw [List.range'_1_concat, List.range'_1_concat, List.append_assoc, Nat.add_comm 1,
    ← Nat.add_assoc, Nat.add_comm 1]
  rfl

theorem positions_tokens (d : Dialect) (schema : String) (s : Select) :
    positions (lexemes (s.tokens d schema)) = List.range' 1 (s.params d).length := by
  have hcount : (s.params d).length = s.allComparisons.length + 2 := by
    cases d <;> simp [params, pageBounds]
  rw [lexemes_tokens, positions_append, positions_lexemes, positions_beforeTable, hcount,
    ← positions_afterTable d s, ← positions_lexemes (s.afterTable d)]
  rfl

theorem from_not_mem_beforeTable (s : Select) : .word "FROM" ∉ s.beforeTable := by
  intro h
  rcases mem_beforeTable h with h | ⟨f, -, h⟩
  · simp at h
  · simp at h

theorem from_not_mem_afterTable (d : Dialect) (s : Select) : .word "FROM" ∉ s.afterTable d := by
  intro h
  rcases mem_afterTable h with h | h | h | h
  · rcases reserved_mem_whereTokens h rfl with h | h <;> simp at h
  · rcases mem_orderTokens h with h | ⟨f, -, h⟩
    · cases hd : s.direction <;> simp [hd, Query.Direction.sql] at h
    · simp at h
  · cases d <;> simp [pageTokens] at h
  · simp at h

theorem mem_names_beforeTable {s : Select} {n : String} (h : n ∈ names s.beforeTable) :
    n = viewName s.resource ∨ n ∈ s.fields := by
  rcases mem_beforeTable (mem_names.mp h) with hmem | ⟨f, hf, hn⟩
  · exact .inl (by simpa using hmem)
  · exact .inr (Token.name.inj hn ▸ hf)

theorem mem_names_whereTokens {d : Dialect} {s : Select} {n : String}
    (h : n ∈ names (s.whereTokens d)) :
    n = viewName s.resource ∨ (∃ c ∈ s.comparisons, n = c.field) ∨
      ∃ r, s.restriction = some r ∧ n = r.field := by
  rcases mem_whereTokens (mem_names.mp h) with hmem | ⟨r, hr, hmem⟩ | hmem
  · rcases mem_names_conditionTokens (mem_names.mpr hmem) with hn | hn
    · exact .inl hn
    · exact .inr (.inl hn)
  · have hpair : n ∈ [viewName s.resource, r.field] :=
      names_comparisonTokens d s.resource r _ ▸ mem_names.mpr hmem
    simp only [List.mem_cons, List.not_mem_nil, or_false] at hpair
    rcases hpair with hn | hn
    · exact .inl hn
    · exact .inr (.inr ⟨r, hr, hn⟩)
  · simp at hmem

theorem mem_names_afterTable {d : Dialect} {s : Select} {n : String}
    (h : n ∈ names (s.afterTable d)) :
    n = viewName s.resource ∨ (∃ c ∈ s.comparisons, n = c.field) ∨
      (∃ r, s.restriction = some r ∧ n = r.field) ∨ n ∈ s.order := by
  rcases mem_afterTable (mem_names.mp h) with hmem | hmem | hmem | hmem
  · rcases mem_names_whereTokens (mem_names.mpr hmem) with hn | hn | hn
    · exact .inl hn
    · exact .inr (.inl hn)
    · exact .inr (.inr (.inl hn))
  · rcases mem_orderTokens hmem with hmem | ⟨f, hf, hn⟩
    · exact .inl (by simpa using hmem)
    · exact .inr (.inr (.inr (Token.name.inj hn ▸ hf)))
  · cases d <;> simp [pageTokens] at hmem
  · simp at hmem

end Select

def MayName (endpoint : Endpoint) (n : String) : Prop :=
  n = viewName endpoint.resource ∨ n ∈ endpoint.catalogue.selectable ∨
    n ∈ endpoint.catalogue.filterable ∨ ∃ r, endpoint.restriction? = some r ∧ n = r.field

def Binds (d : Dialect) (catalogue : Catalogue) (clause : Clause) (text : String) : Prop :=
  if clause.operator = .contains then
    text = String.ofList (containsPattern d clause.value.toList)
  else (catalogue.kindOf clause.field).normalize clause.value = some text

def Intact (d : Dialect) (schema : String) (endpoint : Endpoint) (st : Statement) : Prop :=
  ∃ before after, lex d st.sql.toList = some (before ++
        Token.word "FROM" :: .name schema :: .mark "." ::
          .name (viewName endpoint.resource) :: after) ∧
    .word "FROM" ∉ before ∧ .word "FROM" ∉ after ∧
    (∀ n ∈ names before, MayName endpoint n) ∧ (∀ n ∈ names after, MayName endpoint n) ∧
    positions before ++ positions after = List.range' 1 st.params.length

theorem Select.Serves.intact {endpoint : Endpoint} {clauses : List Clause} {s : Select}
    (h : s.Serves endpoint clauses) (d : Dialect) (schema : String) :
    Intact d schema endpoint (s.statement d schema) := by
  refine ⟨lexemes s.beforeTable, lexemes (s.afterTable d), ?_, ?_, ?_, ?_, ?_, ?_⟩
  · rw [Select.lex_statement, Select.lexemes_tokens, h.resource]
  · exact fun hmem => s.from_not_mem_beforeTable (mem_lexemes hmem)
  · exact fun hmem => s.from_not_mem_afterTable d (mem_lexemes hmem)
  · intro n hn
    rw [names_lexemes] at hn
    rcases Select.mem_names_beforeTable hn with hn | hn
    · exact .inl (h.resource ▸ hn)
    · exact .inr (.inl (h.fields n hn))
  · intro n hn
    rw [names_lexemes] at hn
    rcases Select.mem_names_afterTable hn with hn | ⟨c, hc, hn⟩ | ⟨r, hr, hn⟩ | hn
    · exact .inl (h.resource ▸ hn)
    · exact .inr (.inr (.inl (hn ▸ Query.filterable_of_checked h.comparisons hc)))
    · rw [h.restriction] at hr
      obtain ⟨restriction, hrestriction, rfl⟩ := Option.map_eq_some_iff.mp hr
      exact .inr (.inr (.inr ⟨restriction, hrestriction, hn⟩))
    · exact .inr (.inl (h.order n hn))
  · have hall := s.positions_tokens d schema
    rw [Select.lexemes_tokens, positions_append] at hall
    exact hall

theorem boundOf_eq (d : Dialect) (c : Comparison) : boundOf d c = .text
    (if c.operator = .contains then String.ofList (containsPattern d c.value.toList)
      else c.value) := by
  unfold boundOf
  split <;> simp_all

theorem binds_of_checked {d : Dialect} {catalogue : Catalogue} {clauses : List Clause}
    {cs : List Comparison} (h : List.Forall₂ (Checked catalogue) clauses cs) :
    ∃ texts, List.Forall₂ (Binds d catalogue) clauses texts ∧
      cs.map (boundOf d) = texts.map Bound.text := by
  induction h with
  | nil => exact ⟨[], .nil, rfl⟩
  | @cons clause c clauses cs hc _ ih =>
      obtain ⟨texts, hbinds, hmap⟩ := ih
      refine ⟨_ :: texts, .cons ?_ hbinds, by rw [List.map_cons, hmap, boundOf_eq]; rfl⟩
      unfold Binds
      by_cases hop : clause.operator = .contains
      · simp [hop, hc.operator, hc.searched hop]
      · simp [hop, hc.operator, hc.literal hop]

theorem Select.Serves.params {endpoint : Endpoint} {clauses : List Clause} {s : Select}
    (h : s.Serves endpoint clauses) (d : Dialect) :
    ∃ texts, List.Forall₂ (Binds d endpoint.catalogue) clauses texts ∧
      s.params d = texts.map Bound.text ++
        endpoint.restriction?.toList.map (fun r => .text r.value) ++
          pageBounds d s.limit s.offset := by
  obtain ⟨texts, hbinds, hmap⟩ := binds_of_checked h.comparisons
  refine ⟨texts, hbinds, ?_⟩
  have hfixed : s.restriction.toList.map (boundOf d) =
      endpoint.restriction?.toList.map (fun r => .text r.value) := by
    rw [h.restriction]
    cases endpoint.restriction? <;> rfl
  rw [Select.params, Select.allComparisons, List.map_append, hmap, hfixed]

theorem statements_intact (d : Dialect) (schema : String) (endpoint : Endpoint) :
    (∀ (request : Request) (st : Statement), renderMany d schema endpoint request = .ok st →
      Intact d schema endpoint st ∧
      ∃ filter texts, Filter.parse request.filter = .ok filter ∧
        List.Forall₂ (Binds d endpoint.catalogue) filter.clauses texts ∧
        st.params = texts.map Bound.text ++
          endpoint.restriction?.toList.map (fun r => .text r.value) ++
            pageBounds d request.limit request.offset) ∧
    ∀ id, Intact d schema endpoint (renderOne d schema endpoint id) ∧
      (renderOne d schema endpoint id).params = [.text id] ++
        endpoint.restriction?.toList.map (fun r => .text r.value) ++ pageBounds d 1 0 := by
  constructor
  · intro request st h
    obtain ⟨s, hs, rfl⟩ := renderMany_eq_ok h
    obtain ⟨filter, hfilter, hserves, -, hlimit, hoffset⟩ := Select.serves_ofRequest hs
    obtain ⟨texts, hbinds, hparams⟩ := hserves.params d
    exact ⟨hserves.intact d schema, filter, texts, hfilter, hbinds, hlimit ▸ hoffset ▸ hparams⟩
  · intro id
    refine ⟨(Select.serves_ofId endpoint id).intact d schema, ?_⟩
    cases endpoint <;> rfl

theorem schools_intact : ∃ st,
    renderMany .postgres "a\"$1" .schools
      { Request.usual with filter := "name~'$2' AND status!='@P1'" } = .ok st ∧
    Intact .postgres "a\"$1" .schools st ∧
    st.params = [.text "%$2%", .text "@P1", .text "school", .integer 10, .integer 0] := by
  obtain ⟨hintact, -⟩ := (statements_intact .postgres "a\"$1" .schools).1
    { Request.usual with filter := "name~'$2' AND status!='@P1'" } _ rfl
  exact ⟨_, rfl, hintact, by decide⟩

end Rostering.Sql
