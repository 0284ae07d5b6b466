import Rostering.Proofs.Sql.Spacing

namespace Rostering.Sql

open Query (Comparison Connective Direction)
open Roster (FieldKind Resource)

namespace Token

def param? : Token → Option Nat
  | .param position => some position
  | _ => none

def name? : Token → Option String
  | .name ident => some ident
  | _ => none

def isReserved : Token → Bool
  | .word w => w ∈ ["FROM", "WHERE", "ORDER", "AND", "OR"]
  | _ => false

def inert (t : Token) : Bool := t.param?.isNone && t.name?.isNone && !t.isReserved

end Token

def positions (ts : List Token) : List Nat := ts.filterMap Token.param?

def names (ts : List Token) : List String := ts.filterMap Token.name?

theorem positions_append (a b : List Token) : positions (a ++ b) = positions a ++ positions b :=
  List.filterMap_append

theorem names_append (a b : List Token) : names (a ++ b) = names a ++ names b :=
  List.filterMap_append

theorem lexemes_append (a b : List Token) : lexemes (a ++ b) = lexemes a ++ lexemes b :=
  List.filter_append a b

theorem mem_lexemes {t : Token} {ts : List Token} (h : t ∈ lexemes ts) : t ∈ ts :=
  (List.mem_filter.mp h).1

theorem mem_names {n : String} {ts : List Token} : n ∈ names ts ↔ .name n ∈ ts := by
  simp only [names, List.mem_filterMap]
  constructor
  · rintro ⟨t, ht, hn⟩
    cases t <;> simp_all [Token.name?]
  · intro h
    exact ⟨_, h, rfl⟩

theorem filterMap_lexemes {α : Type} {f : Token → Option α} (h : f .gap = none)
    (ts : List Token) : (lexemes ts).filterMap f = ts.filterMap f := by
  rw [lexemes, List.filterMap_filter]
  congr 1
  funext t
  cases t <;> simp [Token.isGap, h]

theorem positions_lexemes (ts : List Token) : positions (lexemes ts) = positions ts :=
  filterMap_lexemes rfl ts

theorem names_lexemes (ts : List Token) : names (lexemes ts) = names ts :=
  filterMap_lexemes rfl ts

theorem Token.inert_iff {t : Token} :
    t.inert = true ↔ t.param? = none ∧ t.name? = none ∧ t.isReserved = false := by
  simp [inert, and_assoc]

def Inert (ts : List Token) : Prop := ∀ t ∈ ts, t.inert = true

def Unreserved (ts : List Token) : Prop := ∀ t ∈ ts, t.isReserved = false

theorem Inert.positions {ts : List Token} (h : Inert ts) : positions ts = [] :=
  List.filterMap_eq_nil_iff.mpr fun t ht => (Token.inert_iff.mp (h t ht)).1

theorem Inert.names {ts : List Token} (h : Inert ts) : names ts = [] :=
  List.filterMap_eq_nil_iff.mpr fun t ht => (Token.inert_iff.mp (h t ht)).2.1

theorem Inert.unreserved {ts : List Token} (h : Inert ts) : Unreserved ts :=
  fun t ht => (Token.inert_iff.mp (h t ht)).2.2

theorem unreserved_append {a b : List Token} :
    Unreserved (a ++ b) ↔ Unreserved a ∧ Unreserved b := by
  simp only [Unreserved, List.mem_append]
  exact ⟨fun h => ⟨fun t ht => h t (.inl ht), fun t ht => h t (.inr ht)⟩,
    fun h t ht => ht.elim (h.1 t) (h.2 t)⟩

namespace Frame

def Inert (f : Frame) : Prop := Sql.Inert f.before ∧ Sql.Inert f.after

theorem Inert.positions_around {f : Frame} (h : f.Inert) (inner : List Token) :
    positions (f.around inner) = positions inner := by
  simp [around, positions_append, h.1.positions, h.2.positions]

theorem Inert.names_around {f : Frame} (h : f.Inert) (inner : List Token) :
    names (f.around inner) = names inner := by
  simp [around, names_append, h.1.names, h.2.names]

theorem Inert.unreserved_around {f : Frame} (h : f.Inert) {inner : List Token}
    (hinner : Unreserved inner) : Unreserved (f.around inner) := by
  simp only [around, unreserved_append]
  exact ⟨⟨h.1.unreserved, hinner⟩, h.2.unreserved⟩

end Frame

theorem IsColumnFrame.inert {d : Dialect} {kind : FieldKind} {f : Frame}
    (h : IsColumnFrame d kind f) : f.Inert := by
  rcases h with rfl | rfl <;> cases d <;> cases kind <;>
    exact ⟨by unfold Inert; decide, by unfold Inert; decide⟩

theorem compareValue_inert (d : Dialect) (kind : FieldKind) : (compareValue d kind).Inert := by
  cases d <;> cases kind <;> exact ⟨by unfold Inert; decide, by unfold Inert; decide⟩

section comparison

variable (d : Dialect) (resource : Resource) (c : Comparison) (position : Nat)

theorem positions_comparisonTokens :
    positions (comparisonTokens d resource c position) = [position] := by
  by_cases h : c.operator = .contains
  · rw [comparisonTokens_contains d resource h, positions_append,
      (isColumnFrame_pattern d c.kind).inert.positions_around]
    rfl
  · rw [comparisonTokens_compared d resource h, positions_append,
      (isColumnFrame_compare d c.kind).inert.positions_around]
    change [] ++ positions ((compareValue d c.kind).around [.param position]) = _
    rw [(compareValue_inert d c.kind).positions_around]
    rfl

theorem names_comparisonTokens :
    names (comparisonTokens d resource c position) = [viewName resource, c.field] := by
  by_cases h : c.operator = .contains
  · rw [comparisonTokens_contains d resource h, names_append,
      (isColumnFrame_pattern d c.kind).inert.names_around]
    rfl
  · rw [comparisonTokens_compared d resource h, names_append,
      (isColumnFrame_compare d c.kind).inert.names_around]
    change _ ++ names ((compareValue d c.kind).around [.param position]) = _
    rw [(compareValue_inert d c.kind).names_around]
    rfl

theorem unreserved_columnName (field : String) : Unreserved (columnName resource field) := by
  simp [Unreserved, columnName, qualified, Token.isReserved]

theorem unreserved_comparisonTokens : Unreserved (comparisonTokens d resource c position) := by
  by_cases h : c.operator = .contains
  · rw [comparisonTokens_contains d resource h, unreserved_append]
    refine ⟨(isColumnFrame_pattern d c.kind).inert.unreserved_around
      (unreserved_columnName resource c.field), ?_⟩
    simp [Unreserved, Token.isReserved]
  · rw [comparisonTokens_compared d resource h, unreserved_append]
    refine ⟨(isColumnFrame_compare d c.kind).inert.unreserved_around
      (unreserved_columnName resource c.field), ?_⟩
    have hparam : Unreserved [.param position] := by simp [Unreserved, Token.isReserved]
    have hvalue := (compareValue_inert d c.kind).unreserved_around hparam
    have hop : Unreserved [.gap, .mark c.operator.sql, .gap] := by
      simp [Unreserved, Token.isReserved]
    exact unreserved_append.mpr ⟨hop, hvalue⟩

end comparison

theorem positions_conditionTokens (d : Dialect) (resource : Resource) (connective : Connective)
    (position : Nat) (cs : List Comparison) :
    positions (conditionTokens d resource connective position cs) =
      List.range' position cs.length := by
  induction cs generalizing position with
  | nil => rfl
  | cons c cs ih =>
      cases cs with
      | nil => exact positions_comparisonTokens d resource c position
      | cons next rest =>
          rw [conditionTokens, positions_append, positions_append, ih,
            positions_comparisonTokens]
          rfl

theorem mem_names_conditionTokens {d : Dialect} {resource : Resource} {connective : Connective}
    {position : Nat} {cs : List Comparison} {n : String}
    (h : n ∈ names (conditionTokens d resource connective position cs)) :
    n = viewName resource ∨ ∃ c ∈ cs, n = c.field := by
  induction cs generalizing position with
  | nil => simp [conditionTokens, alwaysTokens, names, Token.name?] at h
  | cons c cs ih =>
      have hfirst (hn : n ∈ names (comparisonTokens d resource c position)) :
          n = viewName resource ∨ ∃ x ∈ c :: cs, n = x.field := by
        rw [names_comparisonTokens] at hn
        simp only [List.mem_cons, List.not_mem_nil, or_false] at hn
        rcases hn with rfl | rfl
        · exact .inl rfl
        · exact .inr ⟨c, by simp, rfl⟩
      cases cs with
      | nil => exact hfirst h
      | cons next rest =>
          rw [conditionTokens, names_append, names_append] at h
          rcases List.mem_append.mp h with h | h
          · rcases List.mem_append.mp h with h | h
            · exact hfirst h
            · simp [names, Token.name?] at h
          · rcases ih h with rfl | ⟨x, hx, rfl⟩
            · exact .inl rfl
            · exact .inr ⟨x, List.mem_cons_of_mem c hx, rfl⟩

theorem mem_separated {parts : List (List Token)} {t : Token} (h : t ∈ separated parts) :
    t = .mark "," ∨ t = .gap ∨ ∃ part ∈ parts, t ∈ part := by
  induction parts with
  | nil => simp [separated] at h
  | cons part parts ih =>
      cases parts with
      | nil => exact .inr (.inr ⟨part, by simp, by simpa [separated] using h⟩)
      | cons next rest =>
          rw [separated_cons_cons] at h
          simp only [List.nil_append, List.mem_append, List.mem_cons] at h
          rcases h with h | rfl | rfl | h
          · exact .inr (.inr ⟨part, by simp, h⟩)
          · exact .inl rfl
          · exact .inr (.inl rfl)
          · rcases ih h with h | h | ⟨p, hp, hmem⟩
            · exact .inl h
            · exact .inr (.inl h)
            · exact .inr (.inr ⟨p, List.mem_cons_of_mem part hp, hmem⟩)

theorem mem_projectionTokens {resource : Resource} {fields : List String} {t : Token}
    (h : t ∈ projectionTokens resource fields) :
    t ∈ [.mark ",", .gap, .mark ".", .name (viewName resource)] ∨ ∃ f ∈ fields, t = .name f := by
  rcases mem_separated h with rfl | rfl | ⟨part, hpart, ht⟩
  · simp
  · simp
  · obtain ⟨field, hfield, rfl⟩ := List.mem_map.mp hpart
    simp only [columnName, qualified, List.mem_cons, List.not_mem_nil, or_false] at ht
    rcases ht with rfl | rfl | rfl
    · simp
    · simp
    · exact .inr ⟨field, hfield, rfl⟩

theorem mem_orderTokens {resource : Resource} {fields : List String} {direction : Direction}
    {t : Token} (h : t ∈ orderTokens resource fields direction) :
    t ∈ [.mark ",", .gap, .mark ".", .name (viewName resource), .word direction.sql] ∨
      ∃ f ∈ fields, t = .name f := by
  rcases mem_separated h with rfl | rfl | ⟨part, hpart, ht⟩
  · simp
  · simp
  · obtain ⟨field, hfield, rfl⟩ := List.mem_map.mp hpart
    simp only [columnName, qualified, List.mem_cons, List.mem_append, List.not_mem_nil,
      or_false] at ht
    rcases ht with (rfl | rfl | rfl) | rfl | rfl
    · simp
    · simp
    · exact .inr ⟨field, hfield, rfl⟩
    · simp
    · simp

theorem reserved_mem_conditionTokens {d : Dialect} {resource : Resource} {connective : Connective}
    {position : Nat} {cs : List Comparison} {t : Token}
    (h : t ∈ conditionTokens d resource connective position cs) (ht : t.isReserved = true) :
    t = .word connective.word := by
  have habsurd {position : Nat} {c : Comparison}
      (hmem : t ∈ comparisonTokens d resource c position) : t = .word connective.word := by
    have hfree := unreserved_comparisonTokens d resource c position t hmem
    simp [ht] at hfree
  induction cs generalizing position with
  | nil =>
      simp only [conditionTokens, alwaysTokens, List.mem_cons, List.not_mem_nil, or_false] at h
      rcases h with rfl | rfl | rfl <;> simp [Token.isReserved] at ht
  | cons c cs ih =>
      cases cs with
      | nil => exact habsurd h
      | cons next rest =>
          simp only [conditionTokens, List.mem_append, List.mem_cons, List.not_mem_nil,
            or_false] at h
          rcases h with (h | rfl | rfl | rfl) | h
          · exact habsurd h
          · simp [Token.isReserved] at ht
          · rfl
          · simp [Token.isReserved] at ht
          · exact ih h

namespace Select

theorem mem_whereTokens {d : Dialect} {s : Select} {t : Token} (h : t ∈ s.whereTokens d) :
    t ∈ conditionTokens d s.resource s.connective 1 s.comparisons ∨
      (∃ r, s.restriction = some r ∧
        t ∈ comparisonTokens d s.resource r (s.comparisons.length + 1)) ∨
      t ∈ [.mark "(", .mark ")", .gap, .word "AND"] := by
  unfold whereTokens at h
  cases hr : s.restriction with
  | none =>
      simp only [hr, grouped, List.mem_cons, List.mem_append, List.not_mem_nil, or_false] at h ⊢
      tauto
  | some r =>
      simp only [hr, grouped, List.mem_cons, List.mem_append, List.not_mem_nil, or_false] at h ⊢
      rcases h with ((rfl | h | rfl) | rfl | rfl | rfl) | rfl | h | rfl
      all_goals first | exact .inl h | exact .inr (.inl ⟨r, rfl, h⟩) | simp

theorem reserved_mem_whereTokens {d : Dialect} {s : Select} {t : Token}
    (h : t ∈ s.whereTokens d) (ht : t.isReserved = true) : t = .word "AND" ∨ t = .word "OR" := by
  rcases mem_whereTokens h with h | ⟨r, -, h⟩ | h
  · obtain rfl := reserved_mem_conditionTokens h ht
    cases s.connective
    · exact .inl rfl
    · exact .inr rfl
  · have hfree := unreserved_comparisonTokens d s.resource r _ t h
    simp [ht] at hfree
  · simp only [List.mem_cons, List.not_mem_nil, or_false] at h
    rcases h with rfl | rfl | rfl | rfl
    · simp [Token.isReserved] at ht
    · simp [Token.isReserved] at ht
    · simp [Token.isReserved] at ht
    · exact .inl rfl

end Select
end Rostering.Sql
