import Mathlib.Data.List.Sort
import Mathlib.Order.Defs.LinearOrder
import Rostering.Query.Request

namespace Rostering.Sql

open Query (Direction)

abbrev SortKeys := List ((String × String) × Direction)

structure Cells (Row V : Type) where
  value : Row → String × String → V
  order : String × String → LinearOrder V

namespace Cells

variable {Row V : Type} (cells : Cells Row V)

def Less (column : String × String) : Direction → V → V → Prop
  | .ascending, x, y => (cells.order column).lt x y
  | .descending, x, y => (cells.order column).lt y x

def Before : SortKeys → Row → Row → Prop
  | [], _, _ => True
  | (column, direction) :: keys, a, b =>
      cells.Less column direction (cells.value a column) (cells.value b column) ∨
        (cells.value a column = cells.value b column ∧ Before keys a b)

def Sorted (keys : SortKeys) (rows : List Row) : Prop := rows.Pairwise (cells.Before keys)

theorem less_asymm {column : String × String} {direction : Direction} {x y : V}
    (h : cells.Less column direction x y) : ¬ cells.Less column direction y x := by
  let := cells.order column
  cases direction with
  | ascending => exact lt_asymm (a := x) (b := y) h
  | descending => exact lt_asymm (a := y) (b := x) h

theorem less_trans {column : String × String} {direction : Direction} {x y z : V}
    (hxy : cells.Less column direction x y) (hyz : cells.Less column direction y z) :
    cells.Less column direction x z := by
  let := cells.order column
  cases direction with
  | ascending => exact lt_trans (a := x) (b := y) hxy hyz
  | descending => exact lt_trans (a := z) (b := y) hyz hxy

theorem less_or_eq_or_less (column : String × String) (direction : Direction) (x y : V) :
    cells.Less column direction x y ∨ x = y ∨ cells.Less column direction y x := by
  let := cells.order column
  cases direction with
  | ascending => exact lt_trichotomy x y
  | descending =>
      rcases lt_trichotomy x y with h | h | h
      · exact .inr (.inr h)
      · exact .inr (.inl h)
      · exact .inl h

theorem before_total (keys : SortKeys) (a b : Row) :
    cells.Before keys a b ∨ cells.Before keys b a := by
  induction keys with
  | nil => exact .inl trivial
  | cons key keys ih =>
      obtain ⟨column, direction⟩ := key
      rcases cells.less_or_eq_or_less column direction (cells.value a column)
        (cells.value b column) with h | h | h
      · exact .inl (.inl h)
      · rcases ih with ih | ih
        · exact .inl (.inr ⟨h, ih⟩)
        · exact .inr (.inr ⟨h.symm, ih⟩)
      · exact .inr (.inl h)

theorem before_trans {keys : SortKeys} {a b c : Row} (hab : cells.Before keys a b)
    (hbc : cells.Before keys b c) : cells.Before keys a c := by
  induction keys with
  | nil => trivial
  | cons key keys ih =>
      obtain ⟨column, direction⟩ := key
      rcases hab with hab | ⟨hab, hab'⟩
      · rcases hbc with hbc | ⟨hbc, -⟩
        · exact .inl (cells.less_trans hab hbc)
        · exact .inl (hbc ▸ hab)
      · rcases hbc with hbc | ⟨hbc, hbc'⟩
        · exact .inl (hab ▸ hbc)
        · exact .inr ⟨hab.trans hbc, ih hab' hbc'⟩

theorem value_eq_of_before {keys : SortKeys} {a b : Row} (hab : cells.Before keys a b)
    (hba : cells.Before keys b a) {column : String × String} (h : column ∈ keys.map (·.1)) :
    cells.value a column = cells.value b column := by
  induction keys with
  | nil => simp at h
  | cons key keys ih =>
      obtain ⟨first, direction⟩ := key
      rcases hab with hab | ⟨heq, hab⟩
      · rcases hba with hba | ⟨heq, -⟩
        · exact absurd hba (cells.less_asymm hab)
        · rw [heq] at hab
          exact absurd hab (cells.less_asymm hab)
      · rcases hba with hba | ⟨-, hba⟩
        · rw [heq] at hba
          exact absurd hba (cells.less_asymm hba)
        · rcases List.mem_cons.mp h with rfl | h
          · exact heq
          · exact ih hab hba h

theorem before_of_value_eq {keys : SortKeys} {a b : Row}
    (h : ∀ column ∈ keys.map (·.1), cells.value a column = cells.value b column) :
    cells.Before keys a b := by
  induction keys with
  | nil => trivial
  | cons key keys ih =>
      refine .inr ⟨h key.1 (by simp), ih ?_⟩
      intro column hcolumn
      exact h column (List.mem_cons_of_mem _ hcolumn)

theorem exists_sorted (keys : SortKeys) (rows : List Row) :
    ∃ arranged : List Row, arranged.Perm rows ∧ cells.Sorted keys arranged := by
  classical
  have : Std.Total (cells.Before keys) := ⟨cells.before_total keys⟩
  have : IsTrans Row (cells.Before keys) := ⟨fun _ _ _ => cells.before_trans⟩
  exact ⟨rows.insertionSort (cells.Before keys), List.perm_insertionSort _ rows,
    List.pairwise_insertionSort _ rows⟩

theorem Sorted.unique {keys : SortKeys} {column : String × String}
    (hcolumn : column ∈ keys.map (·.1)) {rows arranged arranged' : List Row}
    (hdistinct : (rows.map (cells.value · column)).Nodup) (hperm : arranged.Perm rows)
    (hperm' : arranged'.Perm rows) (hsorted : cells.Sorted keys arranged)
    (hsorted' : cells.Sorted keys arranged') : arranged = arranged' := by
  refine List.Perm.eq_of_pairwise ?_ hsorted hsorted' (hperm.trans hperm'.symm)
  intro a b ha hb hab hba
  have hvalue := cells.value_eq_of_before hab hba hcolumn
  exact List.inj_on_of_nodup_map hdistinct (hperm.subset ha) (hperm'.subset hb) hvalue

end Cells

def idColumn (view : String) : String × String := (view, "sourcedId")

def Determines (view : String) (keys : SortKeys) : Prop :=
  ∀ (Row V : Type) (cells : Cells Row V) (rows : List Row),
    (rows.map (cells.value · (idColumn view))).Nodup →
      ∃! arranged : List Row, arranged.Perm rows ∧ cells.Sorted keys arranged

def twins (column : String × String) : Cells Bool Nat where
  value row c := if c = column then row.toNat else 0
  order _ := inferInstance

theorem twins_sorted {column : String × String} {keys : SortKeys} (h : column ∉ keys.map (·.1))
    (rows : List Bool) : (twins column).Sorted keys rows := by
  have hbefore : ∀ a b, (twins column).Before keys a b := by
    intro a b
    apply Cells.before_of_value_eq
    intro c hc
    have hne : c ≠ column := fun heq => h (heq ▸ hc)
    simp [twins, hne]
  exact List.pairwise_of_forall hbefore

theorem determines_iff (view : String) (keys : SortKeys) :
    Determines view keys ↔ idColumn view ∈ keys.map (·.1) := by
  constructor
  · intro h
    by_contra hid
    -- Twins that differ in their identifiers alone are sorted both ways round.
    have hdistinct : ([false, true].map ((twins (idColumn view)).value · (idColumn view))).Nodup := by
      simp [twins]
    obtain ⟨_, -, hunique⟩ := h Bool Nat (twins (idColumn view)) [false, true] hdistinct
    have hforth := hunique [false, true] ⟨.refl _, twins_sorted hid _⟩
    have hback := hunique [true, false] ⟨.swap _ _ _, twins_sorted hid _⟩
    exact absurd (hforth.trans hback.symm) (by decide)
  · intro hid Row V cells rows hdistinct
    obtain ⟨arranged, hperm, hsorted⟩ := cells.exists_sorted keys rows
    refine ⟨arranged, ⟨hperm, hsorted⟩, ?_⟩
    rintro arranged' ⟨hperm', hsorted'⟩
    exact Cells.Sorted.unique cells hid hdistinct hperm' hperm hsorted' hsorted

end Rostering.Sql
