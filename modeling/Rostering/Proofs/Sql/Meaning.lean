import Rostering.Proofs.Sql.Formula

namespace Rostering.Sql

open Query (Comparison Connective Operator)
open Roster (FieldKind Resource)

structure ColumnOperand (view field : String) (ts : List Token) : Prop where
  balanced : Balanced ts
  quiet : ts.all (fun t => (comparator? t).isNone) = true
  column : columns ts = [(view, field)]
  unbound : positions ts = []
  ungrouped : ∀ rest, ungroup? (ts ++ rest) = none

theorem IsColumnFrame.operand {d : Dialect} {kind : FieldKind} {f : Frame}
    (h : IsColumnFrame d kind f) (resource : Resource) (field : String) :
    ColumnOperand (viewName resource) field (lexemes (f.around (columnName resource field))) := by
  rcases h with rfl | rfl <;> cases d <;> cases kind <;>
    exact ⟨rfl, rfl, rfl, rfl, fun _ => rfl⟩

theorem readComparison_operand {view field : String} {left right : List Token} {sign : Token}
    {operator : Operator} {position : Nat} (hleft : ColumnOperand view field left)
    (hsign : comparator? sign = some operator) (hright : operand? operator right = some position) :
    readComparison (left ++ sign :: right) = some (.compare ⟨view, field, operator, position⟩) := by
  have hquiet : ∀ t ∈ left, (comparator? t).isSome = false := by
    intro t ht
    have := List.all_eq_true.mp hleft.quiet t ht
    simpa using this
  have hcut : cutTop (fun t => (comparator? t).isSome) 0 (left ++ sign :: right) =
      some (left, sign, right) :=
    cutTop_at hleft.balanced hquiet (by simp [hsign]) right
  have hnumber (m : Nat) : left ≠ [.number m] := by
    rintro rfl
    simpa [columns] using hleft.column
  unfold readComparison
  rw [hcut]
  split
  · rename_i m n heq
    obtain ⟨hm, -⟩ := Prod.mk.inj (Option.some.inj heq)
    exact absurd hm (hnumber m)
  · rename_i heq
    obtain ⟨rfl, rfl, rfl⟩ := by simpa using heq
    simp [hsign, hleft.column, hleft.unbound, hright]
  · rename_i heq
    exact absurd heq (by simp)

theorem operand?_compareValue (d : Dialect) (kind : FieldKind) {operator : Operator}
    (h : operator ≠ .contains) (position : Nat) :
    operand? operator (lexemes ((compareValue d kind).around [.param position])) =
      some position := by
  cases operator <;> first | exact absurd rfl h | (cases d <;> cases kind <;> rfl)

theorem comparator?_sql {operator : Operator} (h : operator ≠ .contains) :
    comparator? (.mark operator.sql) = some operator := by
  cases operator <;> first | exact absurd rfl h | rfl

theorem balanced_compareValue (d : Dialect) (kind : FieldKind) {operator : Operator}
    (h : operator ≠ .contains) (position : Nat) :
    Balanced (.mark operator.sql :: lexemes ((compareValue d kind).around [.param position])) := by
  cases operator <;> first | exact absurd rfl h | (cases d <;> cases kind <;> rfl)

section comparison

variable (d : Dialect) (resource : Resource) (c : Comparison) (position : Nat)

theorem lexemes_comparisonTokens : ∃ left sign right,
    lexemes (comparisonTokens d resource c position) = left ++ sign :: right ∧
      ColumnOperand (viewName resource) c.field left ∧ comparator? sign = some c.operator ∧
      operand? c.operator right = some position ∧ Balanced (sign :: right) := by
  by_cases h : c.operator = .contains
  · refine ⟨_, .word "LIKE", [.param position, .word "ESCAPE", .literal "\\"], ?_,
      (isColumnFrame_pattern d c.kind).operand resource c.field, ?_, ?_, rfl⟩
    · rw [comparisonTokens_contains d resource h, lexemes_append]
      rfl
    · rw [h]
      rfl
    · rw [h]
      rfl
  · refine ⟨_, .mark c.operator.sql, lexemes ((compareValue d c.kind).around [.param position]), ?_,
      (isColumnFrame_compare d c.kind).operand resource c.field, comparator?_sql h,
      operand?_compareValue d c.kind h position, balanced_compareValue d c.kind h position⟩
    rw [comparisonTokens_compared d resource h, lexemes_append]
    rfl

theorem balanced_comparisonTokens :
    Balanced (lexemes (comparisonTokens d resource c position)) := by
  obtain ⟨left, sign, right, htokens, hleft, -, -, hright⟩ :=
    lexemes_comparisonTokens d resource c position
  rw [htokens]
  exact hleft.balanced.append hright

theorem read_comparisonTokens :
    Formula.read (lexemes (comparisonTokens d resource c position)) =
      some (.compare ⟨viewName resource, c.field, c.operator, position⟩) := by
  have hbalanced := balanced_comparisonTokens d resource c position
  have hfree (w : String) (hw : (Token.word w).isReserved = true) : cutTop (fun t => t = .word w) 0
      (lexemes (comparisonTokens d resource c position)) = none := by
    apply cutTop_eq_none hbalanced
    intro t ht
    have := unreserved_comparisonTokens d resource c position t (mem_lexemes ht)
    rw [decide_eq_false_iff_not]
    rintro rfl
    simp [hw] at this
  obtain ⟨left, sign, right, htokens, hleft, hsign, hright, -⟩ :=
    lexemes_comparisonTokens d resource c position
  have hungrouped : ungroup? (lexemes (comparisonTokens d resource c position)) = none := by
    rw [htokens]
    exact hleft.ungrouped (sign :: right)
  rw [Formula.read_comparison (hfree "OR" rfl) (hfree "AND" rfl) hungrouped, htokens]
  exact readComparison_operand hleft hsign hright

end comparison

def joinedBy : Connective → Formula → Formula → Formula
  | .and => .and
  | .or => .or

def conditionFormula (resource : Resource) (connective : Connective) :
    Nat → List Comparison → Formula
  | _, [] => .constant true
  | position, [c] => .compare ⟨viewName resource, c.field, c.operator, position⟩
  | position, c :: next :: rest =>
      joinedBy connective (.compare ⟨viewName resource, c.field, c.operator, position⟩)
        (conditionFormula resource connective (position + 1) (next :: rest))

section condition

variable (d : Dialect) (resource : Resource) (connective : Connective)

theorem lexemes_conditionTokens (position : Nat) (c next : Comparison) (rest : List Comparison) :
    lexemes (conditionTokens d resource connective position (c :: next :: rest)) =
      lexemes (comparisonTokens d resource c position) ++ Token.word connective.word ::
        lexemes (conditionTokens d resource connective (position + 1) (next :: rest)) := by
  rw [conditionTokens, lexemes_append, lexemes_append, List.append_assoc]
  rfl

theorem balanced_conditionTokens (position : Nat) (cs : List Comparison) :
    Balanced (lexemes (conditionTokens d resource connective position cs)) := by
  induction cs generalizing position with
  | nil => rfl
  | cons c cs ih =>
      have hfirst := balanced_comparisonTokens d resource c position
      cases cs with
      | nil => exact hfirst
      | cons next rest =>
          have hword : Balanced [.word connective.word] := by cases connective <;> rfl
          rw [lexemes_conditionTokens]
          exact hfirst.append (hword.append (ih (position + 1)))

theorem read_conditionTokens (position : Nat) (cs : List Comparison) :
    Formula.read (lexemes (conditionTokens d resource connective position cs)) =
      some (conditionFormula resource connective position cs) := by
  have halways : Formula.read alwaysTokens = some (.constant true) :=
    Formula.read_comparison rfl rfl rfl
  induction cs generalizing position with
  | nil => exact halways
  | cons c cs ih =>
      have hfirst := read_comparisonTokens d resource c position
      cases cs with
      | nil => exact hfirst
      | cons next rest =>
          have hcut : cutTop (fun t => t = .word connective.word) 0
              (lexemes (conditionTokens d resource connective position (c :: next :: rest))) =
              some (lexemes (comparisonTokens d resource c position), .word connective.word,
                lexemes (conditionTokens d resource connective (position + 1) (next :: rest))) := by
            rw [lexemes_conditionTokens]
            apply cutTop_at (balanced_comparisonTokens d resource c position) _ (by simp)
            intro t ht
            have := unreserved_comparisonTokens d resource c position t (mem_lexemes ht)
            rw [decide_eq_false_iff_not]
            rintro rfl
            cases connective <;> simp [Token.isReserved, Connective.word] at this
          cases connective with
          | or => exact Formula.read_or hcut hfirst (ih (position + 1))
          | and =>
              have hor : cutTop (fun t => t = .word "OR") 0
                  (lexemes (conditionTokens d resource .and position (c :: next :: rest))) =
                  none := by
                apply cutTop_eq_none (balanced_conditionTokens d resource .and position _)
                intro t ht
                rw [decide_eq_false_iff_not]
                rintro rfl
                have := reserved_mem_conditionTokens (mem_lexemes ht) rfl
                simp [Connective.word] at this
              exact Formula.read_and hor hcut hfirst (ih (position + 1))

end condition

theorem lexemes_grouped (ts : List Token) : lexemes (grouped ts) = grouped (lexemes ts) := by
  change .mark "(" :: lexemes (ts ++ [.mark ")"]) = _
  rw [lexemes_append]
  rfl

namespace Formula

variable {left right : List Token}

theorem cutTop_grouped_eq_none {stop : Token → Bool} (hopen : stop (.mark "(") = false)
    (h : Balanced left) : cutTop stop 0 (grouped left) = none := by
  have hcut := cutTop_grouped hopen h []
  rw [List.append_nil] at hcut
  rw [hcut]
  rfl

theorem read_grouped (h : Balanced left) : read (grouped left) = read left :=
  read_group (cutTop_grouped_eq_none rfl h) (cutTop_grouped_eq_none rfl h) (ungroup?_grouped h)

theorem read_and_grouped (hleft : Balanced left) (hright : Balanced right) {l r : Formula}
    (hl : read left = some l) (hr : read right = some r) :
    read (grouped left ++ Token.word "AND" :: grouped right) = some (.and l r) := by
  have hor : cutTop (fun t => t = .word "OR") 0
      (grouped left ++ Token.word "AND" :: grouped right) = none := by
    rw [cutTop_grouped rfl hleft]
    change ((cutTop _ 0 (grouped right)).map _).map _ = none
    rw [cutTop_grouped_eq_none rfl hright]
    rfl
  have hand : cutTop (fun t => t = .word "AND") 0
      (grouped left ++ Token.word "AND" :: grouped right) =
        some (grouped left, .word "AND", grouped right) := by
    rw [cutTop_grouped rfl hleft]
    simp [cutTop, afterward]
  exact read_and hor hand ((read_grouped hleft).trans hl) ((read_grouped hright).trans hr)

end Formula

namespace Select

def condition (s : Select) : Formula :=
  let filter := conditionFormula s.resource s.connective 1 s.comparisons
  match s.restriction with
  | none => filter
  | some r => .and filter
      (.compare ⟨viewName s.resource, r.field, r.operator, s.comparisons.length + 1⟩)

theorem balanced_whereTokens (d : Dialect) (s : Select) : Balanced (lexemes (s.whereTokens d)) := by
  have hfilter := (balanced_conditionTokens d s.resource s.connective 1 s.comparisons).grouped
  unfold whereTokens
  cases s.restriction with
  | none => exact lexemes_grouped _ ▸ hfilter
  | some r =>
      have hfixed :=
        (balanced_comparisonTokens d s.resource r (s.comparisons.length + 1)).grouped
      have hand : Balanced (lexemes [.gap, .word "AND", .gap]) := rfl
      simp only [lexemes_append, lexemes_grouped]
      exact (hfilter.append hand).append hfixed

theorem read_whereTokens (d : Dialect) (s : Select) :
    Formula.read (lexemes (s.whereTokens d)) = some s.condition := by
  have hbalanced := balanced_conditionTokens d s.resource s.connective 1 s.comparisons
  have hread := read_conditionTokens d s.resource s.connective 1 s.comparisons
  unfold whereTokens condition
  cases s.restriction with
  | none =>
      dsimp only
      rw [lexemes_grouped, Formula.read_grouped hbalanced]
      exact hread
  | some r =>
      have hand : lexemes [.gap, .word "AND", .gap] = [.word "AND"] := rfl
      dsimp only
      rw [lexemes_append, lexemes_append, lexemes_grouped, lexemes_grouped, hand,
        List.append_assoc]
      exact Formula.read_and_grouped hbalanced
        (balanced_comparisonTokens d s.resource r (s.comparisons.length + 1)) hread
        (read_comparisonTokens d s.resource r (s.comparisons.length + 1))

end Select
end Rostering.Sql
