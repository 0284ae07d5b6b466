import Rostering.Proofs.Sql.Contents

namespace Rostering.Sql

open Query (Comparison Connective Operator)
open Roster (Resource)

structure Compared where
  view : String
  field : String
  operator : Operator
  position : Nat
deriving DecidableEq, Repr

inductive Formula where
  | constant (holds : Bool)
  | compare (c : Compared)
  | and (left right : Formula)
  | or (left right : Formula)
deriving DecidableEq, Repr

namespace Formula

def comparisons : Formula → List Compared
  | .constant _ => []
  | .compare c => [c]
  | .and left right => left.comparisons ++ right.comparisons
  | .or left right => left.comparisons ++ right.comparisons

end Formula

def Token.opens (t : Token) : Bool := t = .mark "(" || t = .word "CASE"

def Token.closes (t : Token) : Bool := t = .mark ")" || t = .word "END"

def deeper (depth : Nat) (t : Token) : Nat :=
  if t.opens then depth + 1 else if t.closes then depth - 1 else depth

def cutTop (stop : Token → Bool) : Nat → List Token → Option (List Token × Token × List Token)
  | _, [] => none
  | depth, t :: ts =>
      if depth = 0 && stop t then some ([], t, ts)
      else (cutTop stop (deeper depth t) ts).map fun p => (t :: p.1, p.2)

def ungroup? : List Token → Option (List Token)
  | .mark "(" :: ts =>
      match cutTop (fun t => t = .mark ")") 0 ts with
      | some (inner, _, []) => some inner
      | _ => none
  | _ => none

def comparator? : Token → Option Operator
  | .mark "=" => some .eq
  | .mark "<>" => some .notEq
  | .mark ">" => some .gt
  | .mark ">=" => some .gte
  | .mark "<" => some .lt
  | .mark "<=" => some .lte
  | .word "LIKE" => some .contains
  | _ => none

def columns : List Token → List (String × String)
  | [] => []
  | .name view :: .mark "." :: .name field :: ts => (view, field) :: columns ts
  | _ :: ts => columns ts

def operand? (operator : Operator) (ts : List Token) : Option Nat :=
  if names ts = [] then
    match operator, ts with
    | .contains, [.param position, .word "ESCAPE", .literal "\\"] => some position
    | .contains, _ => none
    | _, ts =>
        match positions ts with
        | [position] => some position
        | _ => none
  else none

def readComparison (ts : List Token) : Option Formula :=
  match cutTop (fun t => (comparator? t).isSome) 0 ts with
  | some ([.number m], .mark "=", [.number n]) => some (.constant (m = n))
  | some (left, sign, right) =>
      match comparator? sign, columns left, positions left with
      | some operator, [(view, field)], [] =>
          (operand? operator right).map fun position =>
            .compare ⟨view, field, operator, position⟩
      | _, _, _ => none
  | none => none

theorem cutTop_length {stop : Token → Bool} {depth : Nat} {ts left right : List Token} {t : Token}
    (h : cutTop stop depth ts = some (left, t, right)) :
    left.length < ts.length ∧ right.length < ts.length := by
  induction ts generalizing depth left with
  | nil => simp [cutTop] at h
  | cons u us ih =>
      simp only [cutTop] at h
      split at h
      · obtain ⟨rfl, rfl, rfl⟩ := by simpa using h
        simp
      · obtain ⟨⟨l, m, r⟩, hcut, heq⟩ := Option.map_eq_some_iff.mp h
        obtain ⟨rfl, hpair⟩ := Prod.mk.inj heq
        obtain ⟨rfl, rfl⟩ := Prod.mk.inj hpair
        have := ih hcut
        simp only [List.length_cons]
        omega

theorem ungroup?_length {ts inner : List Token} (h : ungroup? ts = some inner) :
    inner.length < ts.length := by
  unfold ungroup? at h
  split at h
  · split at h
    · rename_i hcut
      obtain rfl := Option.some.inj h
      have := (cutTop_length hcut).1
      simp only [List.length_cons]
      omega
    · exact absurd h (by simp)
  · exact absurd h (by simp)

/-- Reads a condition. `OR` parts it first and `AND` then, so that `AND` binds tighter; parentheses
make a group of what they hold; and all else is a comparison. -/
def Formula.read (ts : List Token) : Option Formula :=
  match _hor : cutTop (fun t => t = .word "OR") 0 ts with
  | some (left, _, right) => do
      let l ← Formula.read left
      let r ← Formula.read right
      return .or l r
  | none =>
      match _hand : cutTop (fun t => t = .word "AND") 0 ts with
      | some (left, _, right) => do
          let l ← Formula.read left
          let r ← Formula.read right
          return .and l r
      | none =>
          match _hgroup : ungroup? ts with
          | some inner => Formula.read inner
          | none => readComparison ts
termination_by ts.length
decreasing_by
  · exact (cutTop_length _hor).1
  · exact (cutTop_length _hor).2
  · exact (cutTop_length _hand).1
  · exact (cutTop_length _hand).2
  · exact ungroup?_length _hgroup

def level? : Nat → List Token → Option Nat
  | n, [] => some n
  | n, t :: ts =>
      if t.opens then level? (n + 1) ts
      else if t.closes then
        match n with
        | 0 => none
        | k + 1 => level? k ts
      else level? n ts

def Balanced (ts : List Token) : Prop := level? 0 ts = some 0

theorem level?_append (n : Nat) (a b : List Token) :
    level? n (a ++ b) = (level? n a).bind (level? · b) := by
  induction a generalizing n with
  | nil => rfl
  | cons t ts ih =>
      simp only [List.cons_append, level?]
      split
      · exact ih (n + 1)
      · split
        · cases n with
          | zero => rfl
          | succ k => exact ih k
        · exact ih n

theorem level?_add {n m : Nat} {ts : List Token} (h : level? n ts = some m) (k : Nat) :
    level? (n + k) ts = some (m + k) := by
  induction ts generalizing n with
  | nil =>
      obtain rfl := Option.some.inj h
      rfl
  | cons t ts ih =>
      simp only [level?] at h ⊢
      split at h
      · rw [if_pos ‹_›, Nat.add_right_comm]
        exact ih h
      · rw [if_neg ‹_›]
        split at h
        · rw [if_pos ‹_›]
          cases n with
          | zero => exact absurd h (by simp)
          | succ n =>
              rw [Nat.add_right_comm]
              exact ih h
        · rw [if_neg ‹_›]
          exact ih h

def afterward (a : List Token) (p : List Token × Token × List Token) :
    List Token × Token × List Token :=
  (a ++ p.1, p.2)

theorem cutTop_step {stop : Token → Bool} {n m : Nat} {t : Token} {a ts : List Token}
    (hcut : cutTop stop n (a ++ ts) = (cutTop stop m ts).map (afterward a)) :
    (cutTop stop n (a ++ ts)).map (fun p => (t :: p.1, p.2)) =
      (cutTop stop m ts).map (afterward (t :: a)) := by
  rw [hcut, Option.map_map]
  rfl

theorem cutTop_append {stop : Token → Bool} {n m : Nat} {a : List Token} (h : level? n a = some m)
    (k : Nat) (hstop : k = 0 → ∀ t ∈ a, stop t = true → t.opens = false ∧ t.closes = true)
    (ts : List Token) :
    cutTop stop (n + k) (a ++ ts) = (cutTop stop (m + k) ts).map (afterward a) := by
  induction a generalizing n with
  | nil =>
      obtain rfl := Option.some.inj h
      cases hcut : cutTop stop (n + k) ts <;> simp [afterward, hcut]
  | cons t a ih =>
      have ht : (n + k = 0 && stop t) = false := by
        by_contra hc
        simp only [Bool.not_eq_false, Bool.and_eq_true, decide_eq_true_eq] at hc
        -- a token that closes a group is never met where no group is open
        obtain ⟨rfl, rfl⟩ : n = 0 ∧ k = 0 := by omega
        obtain ⟨hopens, hcloses⟩ := hstop rfl t (by simp) hc.2
        simp [level?, hopens, hcloses] at h
      have ha : k = 0 → ∀ u ∈ a, stop u = true → u.opens = false ∧ u.closes = true :=
        fun hk u hu => hstop hk u (List.mem_cons_of_mem t hu)
      simp only [List.cons_append, cutTop, ht]
      apply cutTop_step
      simp only [level?] at h
      unfold deeper
      split at h
      · rw [if_pos ‹_›, Nat.add_right_comm]
        exact ih h ha
      · rw [if_neg ‹_›]
        split at h
        · rw [if_pos ‹_›]
          cases n with
          | zero => exact absurd h (by simp)
          | succ n =>
              rw [Nat.add_right_comm]
              exact ih h ha
        · rw [if_neg ‹_›]
          exact ih h ha

theorem cutTop_past {stop : Token → Bool} {a : List Token} (h : Balanced a)
    (hstop : ∀ t ∈ a, stop t = false) (ts : List Token) :
    cutTop stop 0 (a ++ ts) = (cutTop stop 0 ts).map (afterward a) :=
  cutTop_append h 0 (fun _ t ht hs => by simp [hstop t ht] at hs) ts

theorem cutTop_at {stop : Token → Bool} {a : List Token} (h : Balanced a)
    (hstop : ∀ t ∈ a, stop t = false) {t : Token} (ht : stop t = true) (ts : List Token) :
    cutTop stop 0 (a ++ t :: ts) = some (a, t, ts) := by
  rw [cutTop_past h hstop]
  simp [cutTop, ht, afterward]

theorem cutTop_eq_none {stop : Token → Bool} {a : List Token} (h : Balanced a)
    (hstop : ∀ t ∈ a, stop t = false) : cutTop stop 0 a = none := by
  have hpast := cutTop_past h hstop []
  rw [List.append_nil] at hpast
  rw [hpast]
  rfl

theorem Balanced.append {a b : List Token} (ha : Balanced a) (hb : Balanced b) :
    Balanced (a ++ b) := by
  unfold Balanced
  rw [level?_append, ha]
  exact hb

theorem Balanced.grouped {ts : List Token} (h : Balanced ts) : Balanced (grouped ts) := by
  have hinner : level? 1 ts = some 1 := level?_add h 1
  change level? 1 (ts ++ [.mark ")"]) = some 0
  rw [level?_append, hinner]
  rfl

theorem cutTop_grouped {stop : Token → Bool} (hopen : stop (.mark "(") = false)
    {inner : List Token} (h : Balanced inner) (ts : List Token) :
    cutTop stop 0 (grouped inner ++ ts) = (cutTop stop 0 ts).map (afterward (grouped inner)) := by
  have hwithin : cutTop stop 1 (inner ++ Token.mark ")" :: ts) =
      (cutTop stop 1 (.mark ")" :: ts)).map (afterward inner) :=
    cutTop_append h 1 (by simp) _
  have hclose : cutTop stop 1 (.mark ")" :: ts) =
      (cutTop stop 0 ts).map fun p => (.mark ")" :: p.1, p.2) := rfl
  have hstart : cutTop stop 0 (grouped inner ++ ts) =
      (cutTop stop 1 (inner ++ Token.mark ")" :: ts)).map fun p => (.mark "(" :: p.1, p.2) := by
    simp [grouped, cutTop, hopen, deeper, Token.opens]
  rw [hstart, hwithin, hclose, Option.map_map, Option.map_map]
  congr 1
  funext p
  simp [afterward, grouped]

theorem ungroup?_grouped {inner : List Token} (h : Balanced inner) :
    ungroup? (grouped inner) = some inner := by
  have hcut : cutTop (fun t => t = .mark ")") 0 (inner ++ [.mark ")"]) =
      some (inner, .mark ")", []) := by
    rw [cutTop_append h 0 (fun _ t _ ht => by
      obtain rfl : t = .mark ")" := by simpa using ht
      exact ⟨rfl, rfl⟩)]
    simp [cutTop, afterward]
  simp [ungroup?, grouped, hcut]

namespace Formula

variable {ts left right inner : List Token} {t : Token} {l r : Formula}

theorem read_or (h : cutTop (fun t => t = .word "OR") 0 ts = some (left, t, right))
    (hl : read left = some l) (hr : read right = some r) : read ts = some (.or l r) := by
  rw [read]
  split <;> simp_all

theorem read_and (hor : cutTop (fun t => t = .word "OR") 0 ts = none)
    (h : cutTop (fun t => t = .word "AND") 0 ts = some (left, t, right))
    (hl : read left = some l) (hr : read right = some r) : read ts = some (.and l r) := by
  rw [read]
  split
  · simp_all
  · split <;> simp_all

theorem read_group (hor : cutTop (fun t => t = .word "OR") 0 ts = none)
    (hand : cutTop (fun t => t = .word "AND") 0 ts = none) (h : ungroup? ts = some inner) :
    read ts = read inner := by
  rw [read]
  split
  · simp_all
  · split
    · simp_all
    · split <;> simp_all

theorem read_comparison (hor : cutTop (fun t => t = .word "OR") 0 ts = none)
    (hand : cutTop (fun t => t = .word "AND") 0 ts = none) (h : ungroup? ts = none) :
    read ts = readComparison ts := by
  rw [read]
  split
  · simp_all
  · split
    · simp_all
    · split <;> simp_all

end Formula
end Rostering.Sql
