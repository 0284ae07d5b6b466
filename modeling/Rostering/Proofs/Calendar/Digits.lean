import Rostering.Calendar.Reading

namespace Rostering

namespace Text

theorem mem_padded_isDigit {width n : Nat} {c : Char} (h : c ∈ padded width n) :
    c.isDigit = true := by
  rcases List.mem_append.mp h with h | h
  · rw [(List.mem_replicate.mp h).2]
    rfl
  · exact List.all_eq_true.mp (digits_all_isDigit n) c h

theorem length_padded {width n : Nat} (hwidth : 0 < width) (h : n < Nat.pow 10 width) :
    (padded width n).length = width := by
  have hdigits : (digits n).length ≤ width :=
    (Nat.length_toDigits_le_iff (by decide) hwidth).mpr h
  rw [padded, List.length_append, List.length_replicate]
  omega

theorem ofDigitChars_padded (width n : Nat) : Nat.ofDigitChars 10 (padded width n) 0 = n := by
  rw [padded, Nat.ofDigitChars_append, Nat.ofDigitChars_replicate_zero, Nat.mul_zero]
  exact Nat.ofDigitChars_ten_toDigits

theorem padded_ne_nil (width n : Nat) : padded width n ≠ [] :=
  List.append_ne_nil_of_right_ne_nil _ (digits_ne_nil n)

theorem isBlank_of_isDigit {c : Char} (h : c.isDigit = true) : isBlank c = false := by
  have hrange : 48 ≤ c.toNat ∧ c.toNat ≤ 57 := Char.isDigit_iff_toNat.mp h
  simp only [isBlank, Bool.or_eq_false_iff, Bool.and_eq_false_iff, decide_eq_false_iff_not,
    beq_eq_false_iff_ne]
  omega

theorem ofDigitChars_lt {ds : List Char} (h : ∀ c ∈ ds, c.isDigit = true) :
    Nat.ofDigitChars 10 ds 0 < Nat.pow 10 ds.length := by
  induction ds with
  | nil => exact Nat.one_pos
  | cons c ds ih =>
      have hrest := ih fun d hd => h d (List.mem_cons_of_mem c hd)
      have hdigit : c.toNat - '0'.toNat ≤ 9 :=
        Nat.sub_le_of_le_add (Char.isDigit_iff_toNat.mp (h c (by simp))).2
      have hfirst := Nat.mul_le_mul_left (Nat.pow 10 ds.length) hdigit
      have hpow : Nat.pow 10 (c :: ds).length = Nat.pow 10 ds.length * 10 := rfl
      rw [Nat.ofDigitChars_cons, Nat.mul_zero, Nat.zero_add, Nat.ofDigitChars_eq_ofDigitChars_zero,
        ← Nat.pow_eq, hpow]
      omega

theorem trimStart_digits {ds : List Char} (hne : ds ≠ []) (h : ∀ c ∈ ds, c.isDigit = true)
    (rest : List Char) : trimStart (ds ++ rest) = ds ++ rest := by
  obtain ⟨c, cs, rfl⟩ := List.exists_cons_of_ne_nil hne
  have hdigit : c.isDigit = true := h c (by simp)
  rw [List.cons_append, trimStart_cons_of_not_blank _ (isBlank_of_isDigit hdigit)]

end Text

namespace Calendar

def Stops (rest : List Char) : Prop := ∀ c, rest.head? = some c → c.isDigit = false

theorem stops_nil : Stops [] := by simp [Stops]

theorem stops_cons {c : Char} (h : c.isDigit = false) (rest : List Char) : Stops (c :: rest) := by
  simpa [Stops] using h

theorem Stops.dropWhile_isDigit {rest : List Char} (h : Stops rest) :
    rest.dropWhile Char.isDigit = rest := by
  cases rest with
  | nil => rfl
  | cons c rest => simp [h c rfl]

theorem takeDigits_append {ds rest : List Char} {width : Nat}
    (hdigits : ∀ c ∈ ds, c.isDigit = true) (hlength : ds.length ≤ width)
    (hend : ds.length = width ∨ Stops rest) : takeDigits width (ds ++ rest) = (ds, rest) := by
  induction ds generalizing width with
  | nil =>
      cases width with
      | zero => rfl
      | succ width =>
          have hstops : Stops rest := hend.resolve_left (by simp)
          cases rest with
          | nil => rfl
          | cons c rest => simp [takeDigits, hstops c rfl]
  | cons c ds ih =>
      cases width with
      | zero => simp at hlength
      | succ width =>
          have hrest : takeDigits width (ds ++ rest) = (ds, rest) :=
            ih (fun d hd => hdigits d (List.mem_cons_of_mem c hd)) (by simpa using hlength)
              (by simpa using hend)
          simp [takeDigits, hdigits c (by simp), hrest]

end Calendar
end Rostering
