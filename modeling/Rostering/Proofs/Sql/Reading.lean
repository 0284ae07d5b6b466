import Rostering.Proofs.Sql.Meaning

namespace Rostering.Sql

open Query (Direction)
open Roster (Resource)

structure Reading where
  schema : String
  view : String
  columns : List (String × String)
  condition : Formula
  order : List ((String × String) × Direction)
deriving DecidableEq, Repr

structure Page where
  limitAt : Nat
  offsetAt : Nat
deriving DecidableEq, Repr

def qualified? : List Token → Option (String × String)
  | [.name qualifier, .mark ".", .name ident] => some (qualifier, ident)
  | _ => none

def direction? : Token → Option Direction
  | .word "ASC" => some .ascending
  | .word "DESC" => some .descending
  | _ => none

def sortKey? : List Token → Option ((String × String) × Direction)
  | [.name view, .mark ".", .name field, t] => (direction? t).map fun dir => ((view, field), dir)
  | _ => none

def items (ts : List Token) : List (List Token) := if ts = [] then [] else ts.splitOn (.mark ",")

def afterBy? : List Token → Option (List Token)
  | .word "BY" :: ts => some ts
  | _ => none

def pageWord : Dialect → Token
  | .postgres => .word "LIMIT"
  | .tsql => .word "OFFSET"

def page? : Dialect → List Token → Option Page
  | .postgres, [.param limit, .word "OFFSET", .param offset] => some ⟨limit, offset⟩
  | .tsql, [.param offset, .word "ROWS", .word "FETCH", .word "NEXT", .param limit, .word "ROWS",
      .word "ONLY"] => some ⟨limit, offset⟩
  | _, _ => none

def readTokens (d : Dialect) : List Token → Option (Reading × Page)
  | .word "SELECT" :: ts => do
      let (projection, _, ts) ← cutTop (fun t => t = .word "FROM") 0 ts
      let (table, _, ts) ← cutTop (fun t => t = .word "WHERE") 0 ts
      let (condition, _, ts) ← cutTop (fun t => t = .word "ORDER") 0 ts
      let (order, _, ts) ← cutTop (fun t => t = pageWord d) 0 (← afterBy? ts)
      let (schema, view) ← qualified? table
      let columns ← (items projection).mapM qualified?
      let condition ← Formula.read condition
      let order ← (items order).mapM sortKey?
      let page ← page? d ts
      return (⟨schema, view, columns, condition, order⟩, page)
  | _ => none

def readStatement (d : Dialect) (text : List Char) : Option (Reading × Page) :=
  (lex d text).bind (readTokens d)

theorem balanced_of_flat {ts : List Token} (h : ∀ t ∈ ts, t.opens = false ∧ t.closes = false) :
    Balanced ts := by
  unfold Balanced
  induction ts with
  | nil => rfl
  | cons t ts ih =>
      obtain ⟨hopens, hcloses⟩ := h t (by simp)
      have hrest := ih fun u hu => h u (List.mem_cons_of_mem t hu)
      simpa [level?, hopens, hcloses] using hrest

theorem cutTop_flat {stop : Token → Bool} {a : List Token}
    (h : ∀ t ∈ a, t.opens = false ∧ t.closes = false ∧ stop t = false) {t : Token}
    (ht : stop t = true) (ts : List Token) : cutTop stop 0 (a ++ t :: ts) = some (a, t, ts) :=
  cutTop_at (balanced_of_flat fun u hu => ⟨(h u hu).1, (h u hu).2.1⟩) (fun u hu => (h u hu).2.2) ht
    ts

theorem lexemes_separated_cons_cons (part next : List Token) (rest : List (List Token)) :
    lexemes (separated (part :: next :: rest)) =
      lexemes part ++ Token.mark "," :: lexemes (separated (next :: rest)) := by
  rw [separated_cons_cons, lexemes_append]
  rfl

theorem lexemes_separated (parts : List (List Token)) :
    lexemes (separated parts) = List.intercalate [.mark ","] (parts.map lexemes) := by
  induction parts with
  | nil => rfl
  | cons part parts ih =>
      cases parts with
      | nil => simp [separated, List.intercalate]
      | cons next rest =>
          rw [lexemes_separated_cons_cons, ih]
          simp [List.intercalate]

theorem items_separated {parts : List (List Token)} (hne : ∀ part ∈ parts, lexemes part ≠ [])
    (hcomma : ∀ part ∈ parts, .mark "," ∉ part) :
    items (lexemes (separated parts)) = parts.map lexemes := by
  cases parts with
  | nil => rfl
  | cons part parts =>
      have hfirst : lexemes (separated (part :: parts)) ≠ [] := by
        have := hne part (by simp)
        cases parts with
        | nil => simpa [separated] using this
        | cons next rest =>
            rw [lexemes_separated_cons_cons]
            simp
      rw [items, if_neg hfirst, lexemes_separated]
      apply List.splitOn_intercalate
      · intro l hl
        obtain ⟨p, hp, rfl⟩ := List.mem_map.mp hl
        exact fun h => hcomma p hp (mem_lexemes h)
      · simp

theorem mapM_items {α β : Type} {spelled : α → List Token} {read : List Token → Option β}
    {value : α → β} (hread : ∀ x, read (lexemes (spelled x)) = some (value x))
    (hne : ∀ x, lexemes (spelled x) ≠ []) (hcomma : ∀ x, .mark "," ∉ spelled x) (xs : List α) :
    (items (lexemes (separated (xs.map spelled)))).mapM read = some (xs.map value) := by
  have hparts : items (lexemes (separated (xs.map spelled))) = (xs.map spelled).map lexemes := by
    apply items_separated
    · simpa using fun x _ => hne x
    · simpa using fun x _ => hcomma x
  have hparse : read ∘ lexemes ∘ spelled = fun x => some (value x) := funext hread
  rw [hparts, List.map_map, List.mapM_map, hparse]
  exact List.mapM_pure

theorem items_projectionTokens (resource : Resource) (fields : List String) :
    (items (lexemes (projectionTokens resource fields))).mapM qualified? =
      some (fields.map fun f => (viewName resource, f)) := by
  apply mapM_items
  · intro f
    rfl
  · simp [columnName, qualified, lexemes, Token.isGap]
  · simp [columnName, qualified]

theorem items_orderTokens (resource : Resource) (fields : List String) (direction : Direction) :
    (items (lexemes (orderTokens resource fields direction))).mapM sortKey? =
      some (fields.map fun f => ((viewName resource, f), direction)) := by
  apply mapM_items
  · intro f
    cases direction <;> rfl
  · simp [columnName, qualified, lexemes, Token.isGap]
  · simp [columnName, qualified]

namespace Select

def reading (schema : String) (s : Select) : Reading where
  schema := schema
  view := viewName s.resource
  columns := s.fields.map fun f => (viewName s.resource, f)
  condition := s.condition
  order := s.order.map fun f => ((viewName s.resource, f), s.direction)

def page (s : Select) : Dialect → Page
  | .postgres => ⟨s.allComparisons.length + 1, s.allComparisons.length + 2⟩
  | .tsql => ⟨s.allComparisons.length + 2, s.allComparisons.length + 1⟩

theorem page?_pageTokens (d : Dialect) (s : Select) :
    ∃ rest, lexemes (pageTokens d (s.allComparisons.length + 1)) = pageWord d :: rest ∧
      page? d rest = some (s.page d) := by
  cases d
  · exact ⟨_, rfl, rfl⟩
  · exact ⟨_, rfl, rfl⟩

theorem lexemes_clauses (d : Dialect) (schema : String) (s : Select) :
    lexemes (s.tokens d schema) = .word "SELECT" ::
      (lexemes (projectionTokens s.resource s.fields) ++ Token.word "FROM" ::
        (tableName schema s.resource ++ Token.word "WHERE" ::
          (lexemes (s.whereTokens d) ++ Token.word "ORDER" :: .word "BY" ::
            (lexemes (orderTokens s.resource s.order s.direction) ++
              lexemes (pageTokens d (s.allComparisons.length + 1)))))) := by
  simp only [tokens, lexemes_append, List.append_assoc]
  rfl

theorem cut_projection (s : Select) (ts : List Token) :
    cutTop (fun t => t = .word "FROM") 0
      (lexemes (projectionTokens s.resource s.fields) ++ Token.word "FROM" :: ts) =
        some (lexemes (projectionTokens s.resource s.fields), .word "FROM", ts) := by
  apply cutTop_flat _ (by simp)
  intro t ht
  rcases mem_projectionTokens (mem_lexemes ht) with hmem | ⟨f, -, rfl⟩
  · simp only [List.mem_cons, List.not_mem_nil, or_false] at hmem
    rcases hmem with rfl | rfl | rfl | rfl <;> simp [Token.opens, Token.closes]
  · simp [Token.opens, Token.closes]

theorem cut_where (d : Dialect) (s : Select) (ts : List Token) :
    cutTop (fun t => t = .word "ORDER") 0 (lexemes (s.whereTokens d) ++ Token.word "ORDER" :: ts) =
      some (lexemes (s.whereTokens d), .word "ORDER", ts) := by
  apply cutTop_at (s.balanced_whereTokens d) _ (by simp)
  intro t ht
  rw [decide_eq_false_iff_not]
  rintro rfl
  rcases reserved_mem_whereTokens (mem_lexemes ht) rfl with h | h <;> simp at h

theorem cut_order (d : Dialect) (s : Select) (ts : List Token) :
    cutTop (fun t => t = pageWord d) 0
      (lexemes (orderTokens s.resource s.order s.direction) ++ pageWord d :: ts) =
        some (lexemes (orderTokens s.resource s.order s.direction), pageWord d, ts) := by
  apply cutTop_flat _ (by simp)
  intro t ht
  rcases mem_orderTokens (mem_lexemes ht) with hmem | ⟨f, -, rfl⟩
  · simp only [List.mem_cons, List.not_mem_nil, or_false] at hmem
    rcases hmem with rfl | rfl | rfl | rfl | rfl <;> cases d <;> cases s.direction <;>
      simp [Token.opens, Token.closes, pageWord, Direction.sql]
  · cases d <;> simp [Token.opens, Token.closes, pageWord]

theorem readTokens_tokens (d : Dialect) (schema : String) (s : Select) :
    readTokens d (lexemes (s.tokens d schema)) = some (s.reading schema, s.page d) := by
  have htable (ts : List Token) : cutTop (fun t => t = .word "WHERE") 0
      (tableName schema s.resource ++ Token.word "WHERE" :: ts) =
        some (tableName schema s.resource, .word "WHERE", ts) := rfl
  have hqualified : qualified? (tableName schema s.resource) =
      some (schema, viewName s.resource) := rfl
  obtain ⟨rest, hpage, hbounds⟩ := s.page?_pageTokens d
  rw [lexemes_clauses, hpage]
  simp [readTokens, cut_projection, htable, cut_where, afterBy?, cut_order, hqualified,
    items_projectionTokens, read_whereTokens, items_orderTokens, hbounds, reading]

theorem readStatement_statement (d : Dialect) (schema : String) (s : Select) :
    readStatement d (s.statement d schema).sql.toList = some (s.reading schema, s.page d) := by
  rw [readStatement, lex_statement, Option.bind_some]
  exact s.readTokens_tokens d schema

end Select
end Rostering.Sql
