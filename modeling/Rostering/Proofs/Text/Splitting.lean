import Mathlib.Data.List.Infix
import Rostering.Text.Basic

namespace Rostering.Text

variable {token : List Char}

theorem occursIn_iff (hne : token ≠ []) {cs : List Char} :
    occursIn token cs = true ↔ token <:+: cs := by
  unfold occursIn
  induction cs with
  | nil => simp [cut?, hne]
  | cons c cs ih =>
      rw [cut?, List.infix_cons_iff, ← ih]
      by_cases hp : token <+: c :: cs
      · simp [List.isPrefixOf_iff_prefix.mpr hp, hp]
      · simp [hp]

theorem splitFrom_eq_splitOn_drop (token : List Char) (n : Nat) (cs : List Char) :
    splitFrom token n cs = splitOn token (cs.drop n) := by
  induction cs generalizing n with
  | nil => cases n <;> simp [splitOn, splitFrom]
  | cons c cs ih =>
      cases n with
      | zero => rfl
      | succ n => simp [splitFrom, ih]

theorem splitOn_nil (token : List Char) : splitOn token [] = [[]] := by rw [splitOn, splitFrom]

theorem splitOn_token_append (hne : token ≠ []) (cs : List Char) :
    splitOn token (token ++ cs) = [] :: splitOn token cs := by
  obtain ⟨t, ts, rfl⟩ := List.exists_cons_of_ne_nil hne
  have hp : (t :: ts).isPrefixOf (t :: (ts ++ cs)) = true :=
    List.isPrefixOf_iff_prefix.mpr (List.prefix_append (t :: ts) cs)
  have hrest : splitFrom (t :: ts) ts.length (ts ++ cs) = splitOn (t :: ts) cs := by
    rw [splitFrom_eq_splitOn_drop, List.drop_left]
  rw [splitOn, List.cons_append, splitFrom, if_pos hp, List.length_cons, Nat.add_sub_cancel, hrest]

theorem splitOn_cons {c : Char} {cs : List Char} (h : ¬ token <+: c :: cs) :
    splitOn token (c :: cs) = growFirst c (splitOn token cs) := by
  have hp : ¬ token.isPrefixOf (c :: cs) = true := fun hp => h (List.isPrefixOf_iff_prefix.mp hp)
  simp [splitOn, splitFrom, hp]

@[elab_as_elim]
theorem splitting_induction (hne : token ≠ []) {motive : List Char → Prop} (nil : motive [])
    (found : ∀ cs, motive cs → motive (token ++ cs))
    (passed : ∀ c cs, ¬ token <+: c :: cs → motive cs → motive (c :: cs)) (cs : List Char) :
    motive cs := by
  induction hlen : cs.length using Nat.strong_induction_on generalizing cs with
  | _ n ih =>
      have hpos := List.length_pos_of_ne_nil hne
      cases cs with
      | nil => exact nil
      | cons c cs =>
          by_cases hp : token <+: c :: cs
          · obtain ⟨rest, hrest⟩ := hp
            rw [← hrest] at hlen ⊢
            exact found rest (ih rest.length (by simp at hlen; omega) rest rfl)
          · exact passed c cs hp (ih cs.length (by simp at hlen; omega) cs rfl)

theorem splitOn_ne_nil (token cs : List Char) : splitOn token cs ≠ [] :=
  splitFrom_ne_nil token 0 cs

theorem intercalate_append {ps qs : List (List Char)} (hps : ps ≠ []) (hqs : qs ≠ []) :
    List.intercalate token (ps ++ qs) =
      List.intercalate token ps ++ (token ++ List.intercalate token qs) := by
  induction ps with
  | nil => exact absurd rfl hps
  | cons p ps ih =>
      cases ps with
      | nil => simp [List.intercalate_cons_of_ne_nil hqs]
      | cons q ps =>
          have hrest : q :: ps ≠ [] := List.cons_ne_nil q ps
          have hall := List.append_ne_nil_of_left_ne_nil hrest qs
          rw [List.cons_append, List.intercalate_cons_of_ne_nil hall, ih hrest,
            List.intercalate_cons_of_ne_nil hrest]
          simp only [List.append_assoc]

theorem intercalate_growFirst (c : Char) {ps : List (List Char)} (h : ps ≠ []) :
    List.intercalate token (growFirst c ps) = c :: List.intercalate token ps := by
  obtain ⟨p, ps, rfl⟩ := List.exists_cons_of_ne_nil h
  cases ps with
  | nil => simp [growFirst, List.intercalate]
  | cons q qs =>
      rw [growFirst, List.intercalate_cons_cons, List.intercalate_cons_cons, List.cons_append,
        List.cons_append]

theorem intercalate_splitOn (hne : token ≠ []) (cs : List Char) :
    List.intercalate token (splitOn token cs) = cs := by
  induction cs using splitting_induction hne with
  | nil => simp [splitOn_nil, List.intercalate]
  | found cs ih =>
      rw [splitOn_token_append hne, List.intercalate_cons_of_ne_nil (splitOn_ne_nil token cs), ih]
      rfl
  | passed c cs hp ih =>
      rw [splitOn_cons hp, intercalate_growFirst c (splitOn_ne_nil token cs), ih]

theorem prefix_intercalate (p : List Char) (ps : List (List Char)) :
    p <+: List.intercalate token (p :: ps) := by
  cases ps with
  | nil => simp [List.intercalate]
  | cons q qs =>
      rw [List.intercalate_cons_cons, List.append_assoc]
      exact List.prefix_append p _

theorem infix_intercalate {p : List Char} {ps : List (List Char)} (h : p ∈ ps) :
    p <:+: List.intercalate token ps := by
  induction ps with
  | nil => simp at h
  | cons q qs ih =>
      rcases List.mem_cons.mp h with rfl | h
      · exact (prefix_intercalate p qs).isInfix
      · rw [List.intercalate_cons_of_ne_nil (List.ne_nil_of_mem h)]
        exact (ih h).trans ⟨q ++ token, [], by simp⟩

theorem infix_of_mem_splitOn (hne : token ≠ []) {cs p : List Char} (h : p ∈ splitOn token cs) :
    p <:+: cs := by
  have hall : p <:+: List.intercalate token (splitOn token cs) := infix_intercalate h
  rwa [intercalate_splitOn hne] at hall

theorem not_infix_of_mem_splitOn (hne : token ≠ []) {cs p : List Char}
    (h : p ∈ splitOn token cs) : ¬ token <:+: p := by
  induction cs using splitting_induction hne generalizing p with
  | nil =>
      obtain rfl : p = [] := by simpa [splitOn_nil] using h
      simpa using hne
  | found cs ih =>
      rw [splitOn_token_append hne] at h
      rcases List.mem_cons.mp h with rfl | h
      · simpa using hne
      · exact ih h
  | passed c cs hp ih =>
      obtain ⟨q, qs, hqs⟩ := List.exists_cons_of_ne_nil (splitOn_ne_nil token cs)
      have hq : q <+: cs := by
        have hprefix : q <+: List.intercalate token (q :: qs) := prefix_intercalate q qs
        rwa [← hqs, intercalate_splitOn hne] at hprefix
      rw [splitOn_cons hp, hqs, growFirst, List.mem_cons] at h
      rw [hqs] at ih
      rcases h with rfl | h
      · rw [List.infix_cons_iff]
        rintro (hstart | hinner)
        · exact hp (hstart.trans (List.cons_prefix_cons.mpr ⟨rfl, hq⟩))
        · exact ih (by simp) hinner
      · exact ih (List.mem_cons_of_mem q h)

theorem splitOn_eq_singleton {cs : List Char} (h : ¬ token <:+: cs) : splitOn token cs = [cs] := by
  induction cs with
  | nil => rfl
  | cons c cs ih =>
      rw [List.infix_cons_iff, not_or] at h
      rw [splitOn_cons h.1, ih h.2]
      rfl

theorem one_lt_length_splitOn (hne : token ≠ []) {cs : List Char} (h : token <:+: cs) :
    1 < (splitOn token cs).length := by
  by_contra hle
  obtain ⟨p, ps, hps⟩ := List.exists_cons_of_ne_nil (splitOn_ne_nil token cs)
  obtain rfl : ps = [] := by
    rw [hps, List.length_cons] at hle
    exact List.eq_nil_of_length_eq_zero (by omega)
  have hcs : p = cs := by simpa [hps, List.intercalate] using intercalate_splitOn hne cs
  have hp : p ∈ splitOn token cs := by rw [hps]; simp
  exact not_infix_of_mem_splitOn hne hp (hcs ▸ h)

theorem not_prefix_append (hne : token ≠ []) {a : Char} {as : List Char}
    (h : ¬ token <+: a :: (as ++ token.dropLast)) (bs : List Char) :
    ¬ token <+: a :: (as ++ (token ++ bs)) := by
  intro hp
  have hwhole : a :: (as ++ token.dropLast) <+: a :: (as ++ (token ++ bs)) :=
    List.cons_prefix_cons.mpr ⟨rfl, (List.prefix_append_right_inj as).mpr
      ((List.dropLast_prefix token).trans (List.prefix_append token bs))⟩
  have hlength : token.length ≤ (a :: (as ++ token.dropLast)).length := by
    have hpos := List.length_pos_of_ne_nil hne
    simp only [List.length_cons, List.length_append, List.length_dropLast]
    omega
  exact h (List.prefix_of_prefix_length_le hp hwhole hlength)

theorem splitOn_append (hne : token ≠ []) {as : List Char} (h : ¬ token <:+: as ++ token.dropLast)
    (bs : List Char) : splitOn token (as ++ (token ++ bs)) = as :: splitOn token bs := by
  induction as with
  | nil => exact splitOn_token_append hne bs
  | cons a as ih =>
      rw [List.cons_append, List.infix_cons_iff, not_or] at h
      rw [List.cons_append, splitOn_cons (not_prefix_append hne h.1 bs), ih h.2]
      rfl

theorem splitOn_intercalate (hne : token ≠ []) {ps : List (List Char)} (hps : ps ≠ [])
    (h : ∀ p ∈ ps, ¬ token <:+: p ++ token.dropLast) :
    splitOn token (List.intercalate token ps) = ps := by
  induction ps with
  | nil => exact absurd rfl hps
  | cons p ps ih =>
      have hp := h p (by simp)
      cases ps with
      | nil =>
          have hfree : ¬ token <:+: p := fun hin =>
            hp (hin.trans (List.prefix_append p token.dropLast).isInfix)
          simpa [List.intercalate] using splitOn_eq_singleton hfree
      | cons q qs =>
          rw [List.intercalate_cons_cons, List.append_assoc, splitOn_append hne hp,
            ih (by simp) fun x hx => h x (List.mem_cons_of_mem p hx)]

theorem prefix_append_cons_iff {c : Char} (hc : c ∉ token) {as bs : List Char} :
    token <+: as ++ c :: bs ↔ token <+: as := by
  refine ⟨fun h => ?_, fun h => h.trans (List.prefix_append as (c :: bs))⟩
  induction as generalizing token with
  | nil =>
      rcases List.prefix_cons_iff.mp h with rfl | ⟨t, rfl, -⟩
      · exact List.nil_prefix
      · simp at hc
  | cons a as ih =>
      rcases List.prefix_cons_iff.mp h with rfl | ⟨t, rfl, ht⟩
      · exact List.nil_prefix
      · exact List.cons_prefix_cons.mpr ⟨rfl, ih (fun hmem => hc (List.mem_cons_of_mem a hmem)) ht⟩

theorem infix_append_cons_iff {c : Char} (hc : c ∉ token) {as bs : List Char} :
    token <:+: as ++ c :: bs ↔ token <:+: as ∨ token <:+: bs := by
  induction as with
  | nil =>
      have hstart : token <+: [] ++ c :: bs ↔ token <+: [] := prefix_append_cons_iff hc
      rw [List.nil_append] at hstart ⊢
      rw [List.infix_cons_iff, hstart, List.prefix_nil, List.infix_nil]
  | cons a as ih =>
      rw [List.cons_append, List.infix_cons_iff, List.infix_cons_iff, ih, ← List.cons_append,
        prefix_append_cons_iff hc, or_assoc]

def tally (token : List Char) : List Char → Nat
  | [] => 0
  | c :: cs => (if token.isPrefixOf (c :: cs) then 1 else 0) + tally token cs

theorem tally_cons_of_prefixed {c : Char} {cs : List Char} (h : token <+: c :: cs) :
    tally token (c :: cs) = tally token cs + 1 := by
  rw [tally, if_pos (List.isPrefixOf_iff_prefix.mpr h), Nat.add_comm]

theorem tally_cons_of_not_prefixed {c : Char} {cs : List Char} (h : ¬ token <+: c :: cs) :
    tally token (c :: cs) = tally token cs := by
  rw [tally, if_neg fun hp => h (List.isPrefixOf_iff_prefix.mp hp), Nat.zero_add]

theorem tally_cons_le (c : Char) (cs : List Char) : tally token cs ≤ tally token (c :: cs) :=
  Nat.le_add_left _ _

theorem tally_le_append (as bs : List Char) : tally token bs ≤ tally token (as ++ bs) := by
  induction as with
  | nil => exact Nat.le_refl _
  | cons a as ih => exact Nat.le_trans ih (tally_cons_le a (as ++ bs))

theorem tally_eq_zero_iff (hne : token ≠ []) {cs : List Char} :
    tally token cs = 0 ↔ ¬ token <:+: cs := by
  induction cs with
  | nil => simpa [tally] using hne
  | cons c cs ih =>
      rw [List.infix_cons_iff, not_or, ← ih]
      by_cases hp : token <+: c :: cs
      · simp [tally_cons_of_prefixed hp, hp]
      · simp [tally_cons_of_not_prefixed hp, hp]

theorem splitOn_of_tally_eq_one (hne : token ≠ []) {as bs : List Char}
    (h : tally token (as ++ (token ++ bs)) = 1) :
    splitOn token (as ++ (token ++ bs)) = [as, bs] := by
  have hrest : 1 ≤ tally token (token ++ bs) := by
    have hin : token <:+: token ++ bs := (List.prefix_append token bs).isInfix
    have hzero := mt (tally_eq_zero_iff hne).mp (not_not_intro hin)
    omega
  induction as with
  | nil =>
      obtain ⟨t, ts, rfl⟩ := List.exists_cons_of_ne_nil hne
      have hstart : t :: ts <+: t :: (ts ++ bs) := List.prefix_append (t :: ts) bs
      have hbs : tally (t :: ts) bs = 0 := by
        have hle : tally (t :: ts) bs ≤ tally (t :: ts) (ts ++ bs) := tally_le_append ts bs
        rw [List.nil_append, List.cons_append, tally_cons_of_prefixed hstart] at h
        omega
      rw [List.nil_append, splitOn_token_append hne,
        splitOn_eq_singleton ((tally_eq_zero_iff hne).mp hbs)]
  | cons a as ih =>
      have hmore : tally token (token ++ bs) ≤ tally token (as ++ (token ++ bs)) :=
        tally_le_append as (token ++ bs)
      have hp : ¬ token <+: a :: (as ++ (token ++ bs)) := by
        intro hp
        rw [List.cons_append, tally_cons_of_prefixed hp] at h
        omega
      rw [List.cons_append, tally_cons_of_not_prefixed hp] at h
      rw [List.cons_append, splitOn_cons hp, ih h]
      rfl

theorem length_growFirst (c : Char) {ps : List (List Char)} (h : ps ≠ []) :
    (growFirst c ps).length = ps.length := by
  obtain ⟨p, ps, rfl⟩ := List.exists_cons_of_ne_nil h
  rfl

theorem length_splitOn (hne : token ≠ [])
    (hapart : ∀ cs, tally token (token ++ cs) = tally token cs + 1) (cs : List Char) :
    (splitOn token cs).length = tally token cs + 1 := by
  induction cs using splitting_induction hne with
  | nil => rfl
  | found cs ih => rw [splitOn_token_append hne, List.length_cons, ih, hapart]
  | passed c cs hp ih =>
      rw [splitOn_cons hp, length_growFirst c (splitOn_ne_nil token cs), ih,
        tally_cons_of_not_prefixed hp]

end Rostering.Text
