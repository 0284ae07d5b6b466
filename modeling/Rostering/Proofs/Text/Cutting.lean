import Rostering.Proofs.Text.Splitting

namespace Rostering.Text

theorem cut?_eq_some_iff {c : Char} {cs as bs : List Char} :
    cut? [c] cs = some (as, bs) ↔ cs = as ++ c :: bs ∧ c ∉ as := by
  constructor
  · intro h
    have hmem : c ∈ cs := by
      by_contra hmem
      rw [cut?_eq_none_iff.mpr hmem] at h
      contradiction
    obtain ⟨front, back, rfl, hfront⟩ := List.eq_append_cons_of_mem hmem
    rw [cut?_append_cons hfront] at h
    obtain ⟨rfl, rfl⟩ := Prod.mk.inj (Option.some.inj h)
    exact ⟨rfl, hfront⟩
  · rintro ⟨rfl, has⟩
    exact cut?_append_cons has bs

theorem cutLast?_eq_none_iff {c : Char} {cs : List Char} : cutLast? c cs = none ↔ c ∉ cs := by
  induction cs with
  | nil => simp [cutLast?]
  | cons a as ih =>
      rw [cutLast?, List.mem_cons, not_or, ← ih]
      cases cutLast? c as with
      | none => simp [eq_comm]
      | some parts => simp

theorem cutLast?_eq_some_iff {c : Char} {cs as bs : List Char} :
    cutLast? c cs = some (as, bs) ↔ cs = as ++ c :: bs ∧ c ∉ bs := by
  constructor
  · intro h
    have hmem : c ∈ cs.reverse := by
      by_contra hmem
      rw [cutLast?_eq_none_iff.mpr (by simpa using hmem)] at h
      contradiction
    obtain ⟨back, front, hcs, hback⟩ := List.eq_append_cons_of_mem hmem
    obtain rfl : cs = front.reverse ++ c :: back.reverse := by
      rw [← cs.reverse_reverse, hcs]
      simp
    rw [cutLast?_append_cons (by simpa using hback)] at h
    obtain ⟨rfl, rfl⟩ := Prod.mk.inj (Option.some.inj h)
    exact ⟨rfl, by simpa using hback⟩
  · rintro ⟨rfl, hbs⟩
    exact cutLast?_append_cons hbs as

theorem cutLast?_append_of_mem {c : Char} {bs : List Char} (h : c ∈ bs) (as : List Char) :
    cutLast? c (as ++ bs) = (cutLast? c bs).map fun (before, after) => (as ++ before, after) := by
  cases hcut : cutLast? c bs with
  | none => exact absurd h (cutLast?_eq_none_iff.mp hcut)
  | some parts =>
      obtain ⟨rfl, hafter⟩ := cutLast?_eq_some_iff.mp hcut
      rw [← List.append_assoc, cutLast?_append_cons hafter]
      rfl

theorem cut?_append {token : List Char} (hne : token ≠ []) {as : List Char}
    (h : ¬ token <:+: as ++ token.dropLast) (bs : List Char) :
    cut? token (as ++ (token ++ bs)) = some (as, bs) := by
  induction as with
  | nil =>
      obtain ⟨t, ts, rfl⟩ := List.exists_cons_of_ne_nil hne
      have hstart : (t :: ts).isPrefixOf (t :: (ts ++ bs)) = true :=
        List.isPrefixOf_iff_prefix.mpr (List.prefix_append (t :: ts) bs)
      rw [List.nil_append, List.cons_append, cut?, if_pos hstart]
      simp
  | cons a as ih =>
      rw [List.cons_append, List.infix_cons_iff, not_or] at h
      have hstart : ¬ token.isPrefixOf (a :: (as ++ (token ++ bs))) = true :=
        fun hp => not_prefix_append hne h.1 bs (List.isPrefixOf_iff_prefix.mp hp)
      rw [List.cons_append, cut?, if_neg hstart, ih h.2]
      rfl

end Rostering.Text
