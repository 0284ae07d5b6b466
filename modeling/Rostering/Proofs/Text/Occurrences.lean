import Mathlib.Data.List.Basic
import Rostering.Text.Basic

namespace Rostering.Text

theorem firstOccurrences_append (as bs : List String) :
    firstOccurrences (as ++ bs) =
      firstOccurrences as ++ (firstOccurrences bs).filter (· ∉ as) := by
  induction as with
  | nil => simp [firstOccurrences]
  | cons a as ih =>
      simp only [List.cons_append, firstOccurrences, ih, List.filter_append, List.filter_filter]
      congr 2
      apply List.filter_congr
      intro x _
      simp

theorem firstOccurrences_repeated {before : List String} {x : String} (h : x ∈ before)
    (after : List String) :
    firstOccurrences (before ++ x :: after) = firstOccurrences (before ++ after) := by
  rw [firstOccurrences_append, firstOccurrences_append, firstOccurrences,
    List.filter_cons_of_neg (by simpa using h), List.filter_filter]
  congr 1
  apply List.filter_congr
  intro y _
  by_cases hy : y = x <;> simp [hy, h]

theorem firstOccurrences_concat (xs : List String) (x : String) :
    firstOccurrences (xs ++ [x]) = pushNew (firstOccurrences xs) x := by
  rw [firstOccurrences_append, pushNew]
  by_cases h : x ∈ xs <;> simp [firstOccurrences, mem_firstOccurrences, h]

theorem firstOccurrences_filter (p : String → Bool) (xs : List String) :
    firstOccurrences (xs.filter p) = (firstOccurrences xs).filter p := by
  induction xs with
  | nil => rfl
  | cons x xs ih =>
      rw [firstOccurrences]
      cases hx : p x with
      | true =>
          rw [List.filter_cons_of_pos hx, List.filter_cons_of_pos hx, firstOccurrences, ih,
            List.filter_comm]
      | false =>
          have hother : ∀ y ∈ firstOccurrences xs, p y = (p y && decide (y ≠ x)) := by
            intro y _
            by_cases hy : y = x <;> simp [hy, hx]
          rw [List.filter_cons_of_neg (by simp [hx]), List.filter_cons_of_neg (by simp [hx]), ih,
            List.filter_filter]
          exact List.filter_congr hother

theorem firstOccurrences_of_nodup {xs : List String} (h : xs.Nodup) :
    firstOccurrences xs = xs := by
  induction xs with
  | nil => rfl
  | cons x xs ih =>
      obtain ⟨hx, hxs⟩ := List.nodup_cons.mp h
      rw [firstOccurrences, ih hxs, List.filter_eq_self.mpr]
      intro y hy
      simpa using ne_of_mem_of_not_mem hy hx

structure OnceInOrder (xs ys : List String) : Prop where
  nodup : ys.Nodup
  mem_iff : ∀ x, x ∈ ys ↔ x ∈ xs
  ordered : ys.Pairwise fun x y => xs.idxOf x < xs.idxOf y

theorem onceInOrder_firstOccurrences (xs : List String) :
    OnceInOrder xs (firstOccurrences xs) := by
  refine ⟨firstOccurrences_nodup xs, fun _ => mem_firstOccurrences, ?_⟩
  induction xs with
  | nil => exact .nil
  | cons x xs ih =>
      have hlater : ∀ y ∈ (firstOccurrences xs).filter (· ≠ x),
          (x :: xs).idxOf y = xs.idxOf y + 1 := by
        intro y hy
        have hne : y ≠ x := by simpa using (List.mem_filter.mp hy).2
        exact List.idxOf_cons_ne xs hne.symm
      refine .cons ?_ ((ih.filter _).imp_of_mem ?_)
      · intro y hy
        rw [List.idxOf_cons_self, hlater y hy]
        exact Nat.succ_pos _
      · intro y z hy hz hlt
        rw [hlater y hy, hlater z hz]
        exact Nat.succ_lt_succ hlt

end Rostering.Text
