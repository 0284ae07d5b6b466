import Rostering.Proofs.Sql.Spelling

namespace Rostering.Sql

open Query (Comparison Connective Direction)
open Roster (FieldKind Resource)

instance (ts : List Token) : Decidable (Spaced ts) :=
  decidable_of_iff ((∀ t ∈ ts, t.sound = true) ∧ ts.IsChain (fun t u => t.meets u = true))
    ⟨fun h => ⟨h.1, h.2⟩, fun h => ⟨h.sound, h.meets⟩⟩

theorem spaced_nil : Spaced [] := ⟨by simp, .nil⟩

theorem spaced_singleton {t : Token} : Spaced [t] ↔ t.sound = true :=
  ⟨fun h => h.sound t (by simp), fun h => ⟨by simpa using h, .singleton t⟩⟩

theorem Token.sound_of_delimits {t : Token} (h : t.delimits = true) : t.sound = true := by
  cases t with
  | mark m =>
      simp only [delimits, Bool.or_eq_true, decide_eq_true_eq] at h
      rcases h with (rfl | rfl) | rfl <;> decide
  | gap => rfl
  | word _ | number _ | literal _ | name _ | param _ => simp [delimits] at h

theorem spaced_delimited {t : Token} (h : t.delimits = true) (a b : List Token) :
    Spaced (a ++ t :: b) ↔ Spaced a ∧ Spaced b := by
  constructor
  · intro hs
    have hmeets := List.isChain_append.mp hs.meets
    exact ⟨⟨fun u hu => hs.sound u (by simp [hu]), hmeets.1⟩,
      ⟨fun u hu => hs.sound u (by simp [hu]), (List.isChain_cons.mp hmeets.2.1).2⟩⟩
  · rintro ⟨ha, hb⟩
    refine ⟨?_, List.isChain_append.mpr ⟨ha.meets, List.isChain_cons.mpr ⟨?_, hb.meets⟩, ?_⟩⟩
    · intro u hu
      simp only [List.mem_append, List.mem_cons] at hu
      rcases hu with hu | rfl | hu
      · exact ha.sound u hu
      · exact Token.sound_of_delimits h
      · exact hb.sound u hu
    · intro u _
      simp [Token.meets, h]
    · intro u _ v hv
      obtain rfl : t = v := by simpa using hv
      simp [Token.meets, h]

theorem spaced_gap (a b : List Token) : Spaced (a ++ Token.gap :: b) ↔ Spaced a ∧ Spaced b :=
  spaced_delimited rfl a b

-- the checks never look into names or placeholders, so they can be run with these left open
theorem spaced_qualified (qualifier ident : String) : Spaced (qualified qualifier ident) :=
  of_decide_eq_true rfl

def IsColumnFrame (d : Dialect) (kind : FieldKind) (f : Frame) : Prop :=
  f = compareColumn d kind ∨ f = patternColumn d kind

theorem isColumnFrame_compare (d : Dialect) (kind : FieldKind) :
    IsColumnFrame d kind (compareColumn d kind) :=
  .inl rfl

theorem isColumnFrame_pattern (d : Dialect) (kind : FieldKind) :
    IsColumnFrame d kind (patternColumn d kind) :=
  .inr rfl

theorem IsColumnFrame.spaced {d : Dialect} {kind : FieldKind} {f : Frame}
    (h : IsColumnFrame d kind f) (resource : Resource) (field : String) :
    Spaced (f.around (columnName resource field)) := by
  rcases h with rfl | rfl <;> cases d <;> cases kind <;> exact of_decide_eq_true rfl

theorem spaced_compareValue (d : Dialect) (kind : FieldKind) (position : Nat) :
    Spaced ((compareValue d kind).around [.param position]) := by
  cases d <;> cases kind <;> exact of_decide_eq_true rfl

theorem comparisonTokens_contains (d : Dialect) (resource : Resource) {c : Comparison}
    (h : c.operator = .contains) (position : Nat) :
    comparisonTokens d resource c position =
      (patternColumn d c.kind).around (columnName resource c.field) ++
        Token.gap :: ([Token.word "LIKE"] ++ Token.gap :: ([Token.param position] ++
          Token.gap :: ([Token.word "ESCAPE"] ++ Token.gap :: [Token.literal "\\"]))) := by
  simp [comparisonTokens, h]

theorem comparisonTokens_compared (d : Dialect) (resource : Resource) {c : Comparison}
    (h : c.operator ≠ .contains) (position : Nat) :
    comparisonTokens d resource c position =
      (compareColumn d c.kind).around (columnName resource c.field) ++
        Token.gap :: ([Token.mark c.operator.sql] ++
          Token.gap :: (compareValue d c.kind).around [.param position]) := by
  unfold comparisonTokens
  split
  · contradiction
  · simp

theorem spaced_comparisonTokens (d : Dialect) (resource : Resource) (c : Comparison)
    (position : Nat) : Spaced (comparisonTokens d resource c position) := by
  by_cases h : c.operator = .contains
  · rw [comparisonTokens_contains d resource h]
    simp only [spaced_gap, spaced_singleton]
    exact ⟨(isColumnFrame_pattern d c.kind).spaced resource c.field, by decide, rfl, by decide, rfl⟩
  · rw [comparisonTokens_compared d resource h]
    simp only [spaced_gap, spaced_singleton]
    refine ⟨(isColumnFrame_compare d c.kind).spaced resource c.field, ?_,
      spaced_compareValue d c.kind position⟩
    cases hop : c.operator <;> first | exact absurd hop h | decide

theorem spaced_conditionTokens (d : Dialect) (resource : Resource) (connective : Connective)
    (position : Nat) (cs : List Comparison) :
    Spaced (conditionTokens d resource connective position cs) := by
  induction cs generalizing position with
  | nil =>
      have halways : Spaced alwaysTokens := by decide
      exact halways
  | cons c cs ih =>
      cases cs with
      | nil => exact spaced_comparisonTokens d resource c position
      | cons next rest =>
          have hword : Spaced [Token.word connective.word] := by
            rw [spaced_singleton]
            cases connective <;> decide
          have hrest := (spaced_gap [.word connective.word] _).mpr ⟨hword, ih (position + 1)⟩
          have hall := (spaced_gap _ _).mpr ⟨spaced_comparisonTokens d resource c position, hrest⟩
          simpa [conditionTokens] using hall

theorem spaced_grouped {ts : List Token} (h : Spaced ts) : Spaced (grouped ts) := by
  have hopen := spaced_delimited (t := .mark "(") rfl [] (ts ++ [.mark ")"])
  have hclose := spaced_delimited (t := .mark ")") rfl ts []
  exact hopen.mpr ⟨spaced_nil, hclose.mpr ⟨h, spaced_nil⟩⟩

theorem separated_cons_cons (part next : List Token) (rest : List (List Token)) :
    separated (part :: next :: rest) =
      part ++ Token.mark "," :: ([] ++ Token.gap :: separated (next :: rest)) := by
  simp [separated, List.intercalate]

theorem spaced_separated {parts : List (List Token)} (h : ∀ part ∈ parts, Spaced part) :
    Spaced (separated parts) := by
  induction parts with
  | nil => exact spaced_nil
  | cons part parts ih =>
      have hpart := h part (by simp)
      cases parts with
      | nil => simpa [separated] using hpart
      | cons next rest =>
          rw [separated_cons_cons, spaced_delimited rfl, spaced_gap]
          exact ⟨hpart, spaced_nil, ih (fun p hp => h p (List.mem_cons_of_mem part hp))⟩

theorem spaced_pageTokens (d : Dialect) (position : Nat) : Spaced (pageTokens d position) := by
  cases d <;> exact of_decide_eq_true rfl

theorem spaced_projectionTokens (resource : Resource) (fields : List String) :
    Spaced (projectionTokens resource fields) := by
  apply spaced_separated
  intro part hpart
  obtain ⟨field, -, rfl⟩ := List.mem_map.mp hpart
  exact spaced_qualified _ field

theorem spaced_orderTokens (resource : Resource) (fields : List String) (direction : Direction) :
    Spaced (orderTokens resource fields direction) := by
  apply spaced_separated
  intro part hpart
  obtain ⟨field, -, rfl⟩ := List.mem_map.mp hpart
  refine (spaced_gap (columnName resource field) _).mpr ⟨spaced_qualified _ field, ?_⟩
  rw [spaced_singleton]
  cases direction <;> decide

namespace Select

theorem spaced_whereTokens (d : Dialect) (s : Select) : Spaced (s.whereTokens d) := by
  have hfilter :=
    spaced_grouped (spaced_conditionTokens d s.resource s.connective 1 s.comparisons)
  unfold whereTokens
  cases s.restriction with
  | none => exact hfilter
  | some r =>
      have hfixed :=
        spaced_grouped (spaced_comparisonTokens d s.resource r (s.comparisons.length + 1))
      have hand : Spaced [Token.word "AND"] := spaced_singleton.mpr (by decide)
      have hrest := (spaced_gap [.word "AND"] _).mpr ⟨hand, hfixed⟩
      simpa using (spaced_gap _ _).mpr ⟨hfilter, hrest⟩

theorem spaced_tokens (d : Dialect) (schema : String) (s : Select) :
    Spaced (s.tokens d schema) := by
  have hall : Spaced ([Token.word "SELECT"] ++ Token.gap :: (projectionTokens s.resource s.fields ++
      Token.gap :: ([Token.word "FROM"] ++ Token.gap :: (tableName schema s.resource ++
      Token.gap :: ([Token.word "WHERE"] ++ Token.gap :: (s.whereTokens d ++
      Token.gap :: ([Token.word "ORDER"] ++ Token.gap :: ([Token.word "BY"] ++
      Token.gap :: (orderTokens s.resource s.order s.direction ++
      Token.gap :: pageTokens d (s.allComparisons.length + 1)))))))))) := by
    simp only [spaced_gap, spaced_singleton]
    exact ⟨by decide, spaced_projectionTokens s.resource s.fields, by decide,
      spaced_qualified schema (viewName s.resource), by decide, s.spaced_whereTokens d, by decide,
      by decide, spaced_orderTokens s.resource s.order s.direction, spaced_pageTokens d _⟩
  simpa [tokens] using hall

theorem lex_statement (d : Dialect) (schema : String) (s : Select) :
    lex d (s.statement d schema).sql.toList = some (lexemes (s.tokens d schema)) := by
  simpa [statement, spelled] using lex_spell d (s.spaced_tokens d schema)

end Select
end Rostering.Sql
