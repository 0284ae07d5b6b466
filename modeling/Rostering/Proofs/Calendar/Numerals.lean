import Rostering.Proofs.Calendar.Spelling

namespace Rostering.Calendar

theorem parts_of_takeDigits {width : Nat} {cs ds rest : List Char}
    (h : takeDigits width cs = (ds, rest)) : cs = ds ++ rest ∧ (∀ c ∈ ds, c.isDigit = true) ∧
      ds.length ≤ width ∧ (ds.length = width ∨ Stops rest) := by
  induction width generalizing cs ds with
  | zero =>
      obtain ⟨rfl, rfl⟩ := Prod.mk.inj h
      exact ⟨rfl, by simp, Nat.le_refl 0, .inl rfl⟩
  | succ width ih =>
      cases cs with
      | nil =>
          obtain ⟨rfl, rfl⟩ := Prod.mk.inj h
          exact ⟨rfl, by simp, Nat.zero_le _, .inr stops_nil⟩
      | cons c cs =>
          obtain ⟨ds', rest', htake⟩ : ∃ ds' rest', takeDigits width cs = (ds', rest') :=
            ⟨_, _, rfl⟩
          simp only [takeDigits, htake] at h
          split at h
          · rename_i hc
            obtain ⟨rfl, rfl⟩ := Prod.mk.inj h
            obtain ⟨rfl, hdigits, hlength, hend⟩ := ih htake
            exact ⟨rfl, List.forall_mem_cons.mpr ⟨hc, hdigits⟩, by simpa using hlength,
              by simpa using hend⟩
          · rename_i hc
            obtain ⟨rfl, rfl⟩ := Prod.mk.inj h
            exact ⟨rfl, by simp, Nat.zero_le _, .inr (stops_cons (by simpa using hc) cs)⟩

theorem Numeral.trimStart_chars (m : Numeral) (rest : List Char) :
    Text.trimStart (m.chars ++ rest) = m.digits ++ rest := by
  rw [Numeral.chars, List.append_assoc, Text.trimStart_append_of_blank _ m.blank,
    Text.trimStart_digits m.written m.digit]

theorem Numeral.readNumber_digits (m : Numeral) {width : Nat} {rest : List Char}
    (hlength : m.digits.length ≤ width) (hend : m.digits.length = width ∨ Stops rest) :
    readNumber width (m.digits ++ rest) = some (m.value, rest) := by
  have hne : m.digits.isEmpty = false := by simpa using m.written
  rw [readNumber, takeDigits_append m.digit hlength hend]
  simp only [hne, Bool.false_eq_true, if_false]
  rfl

theorem exists_numeral_of_readNumber {blanks : List Char} (hblank : Text.Blank blanks)
    {width n : Nat} {cs rest : List Char} (h : readNumber width cs = some (n, rest)) :
    ∃ m : Numeral, m.blanks = blanks ∧ m.digits.length ≤ width ∧
      (m.digits.length = width ∨ Stops rest) ∧ cs = m.digits ++ rest ∧ n = m.value := by
  obtain ⟨ds, rest', htake⟩ : ∃ ds rest', takeDigits width cs = (ds, rest') := ⟨_, _, rfl⟩
  rw [readNumber, htake] at h
  obtain ⟨hne, heq⟩ := Option.ite_none_left_eq_some.mp h
  obtain ⟨rfl, rfl⟩ := Prod.mk.inj (Option.some.inj heq)
  obtain ⟨hcs, hdigits, hlength, hend⟩ := parts_of_takeDigits htake
  exact ⟨⟨blanks, ds, hblank, hdigits, by simpa using hne⟩, rfl, hlength, hend, hcs, rfl⟩

theorem Numeral.Exact.readExactly_chars {m : Numeral} {width : Nat} (h : m.Exact width)
    (rest : List Char) : readExactly width (m.chars ++ rest) = some (m.value, rest) := by
  have htake : takeDigits width (m.digits ++ rest) = (m.digits, rest) :=
    takeDigits_append m.digit (Nat.le_of_eq h.2) (.inl h.2)
  rw [Numeral.chars, h.1, List.nil_append, readExactly, htake]
  exact if_pos h.2

theorem exists_numeral_of_readExactly {width n : Nat} (hwidth : width ≠ 0) {cs rest : List Char}
    (h : readExactly width cs = some (n, rest)) :
    ∃ m : Numeral, m.Exact width ∧ cs = m.chars ++ rest ∧ n = m.value := by
  obtain ⟨ds, rest', htake⟩ : ∃ ds rest', takeDigits width cs = (ds, rest') := ⟨_, _, rfl⟩
  rw [readExactly, htake] at h
  obtain ⟨hlength, heq⟩ := Option.ite_none_right_eq_some.mp h
  obtain ⟨rfl, rfl⟩ := Prod.mk.inj (Option.some.inj heq)
  obtain ⟨hcs, hdigits, -, -⟩ := parts_of_takeDigits htake
  have hne : ds ≠ [] := List.ne_nil_of_length_pos (by omega)
  exact ⟨⟨[], ds, by simp [Text.Blank], hdigits, hne⟩, ⟨rfl, hlength⟩, hcs, rfl⟩

theorem readTwo_eq_some_iff {n : Nat} {cs rest : List Char} :
    readTwo cs = some (n, rest) ↔ ∃ m : Numeral, m.digits.length ≤ 2 ∧
      (m.digits.length = 2 ∨ Stops rest) ∧ cs = m.chars ++ rest ∧ n = m.value := by
  constructor
  · intro h
    obtain ⟨blanks, hblank, hsplit⟩ := Text.trimStart_parts cs
    obtain ⟨m, rfl, hlength, hend, hcs, rfl⟩ := exists_numeral_of_readNumber hblank h
    refine ⟨m, hlength, hend, ?_, rfl⟩
    rw [hsplit, hcs, Numeral.chars, List.append_assoc]
  · rintro ⟨m, hlength, hend, rfl, rfl⟩
    rw [readTwo, m.trimStart_chars]
    exact m.readNumber_digits hlength hend

theorem readYear_unsigned {c : Char} (h : c.isDigit = true) (cs : List Char) :
    readYear (c :: cs) = (readNumber 4 (c :: cs)).map fun p => ((p.1 : Int), p.2) := by
  unfold readYear
  split
  · rename_i heq
    obtain rfl := (List.cons.inj heq).1
    exact absurd h (by decide)
  · rename_i heq
    obtain rfl := (List.cons.inj heq).1
    exact absurd h (by decide)
  · rfl

theorem readYear_chars {sign : Sign} {m : Numeral}
    (hfits : sign = .none → m.digits.length ≤ 4) {rest : List Char} (hrest : Stops rest) :
    readYear (Text.trimStart (m.blanks ++ (sign.chars ++ (m.digits ++ rest)))) =
      some (sign.apply m.value, rest) := by
  have hall : readNumber (m.digits ++ rest).length (m.digits ++ rest) = some (m.value, rest) :=
    m.readNumber_digits (by simp) (.inr hrest)
  rw [Text.trimStart_append_of_blank _ m.blank]
  cases sign with
  | none =>
      obtain ⟨c, ds, hcons⟩ := List.exists_cons_of_ne_nil m.written
      have hfour := m.readNumber_digits (hfits rfl) (.inr hrest)
      rw [Sign.chars, List.nil_append, Text.trimStart_digits m.written m.digit]
      rw [hcons, List.cons_append] at hfour ⊢
      rw [readYear_unsigned (m.digit c (by simp [hcons])), hfour]
      rfl
  | plus =>
      rw [Sign.chars, List.singleton_append, Text.trimStart_cons_of_not_blank _ (by decide),
        readYear, hall]
      rfl
  | minus =>
      rw [Sign.chars, List.singleton_append, Text.trimStart_cons_of_not_blank _ (by decide),
        readYear, hall]
      rfl

theorem exists_numeral_of_readYear {n : Int} {cs rest : List Char}
    (h : readYear (Text.trimStart cs) = some (n, rest)) : ∃ (sign : Sign) (m : Numeral),
      (sign = .none → m.digits.length ≤ 4) ∧
        cs = m.blanks ++ (sign.chars ++ (m.digits ++ rest)) ∧ n = sign.apply m.value := by
  obtain ⟨blanks, hblank, hsplit⟩ := Text.trimStart_parts cs
  generalize Text.trimStart cs = trimmed at h hsplit
  unfold readYear at h
  split at h
  all_goals
    obtain ⟨⟨k, rest'⟩, hread, heq⟩ := Option.map_eq_some_iff.mp h
    obtain ⟨rfl, rfl⟩ := Prod.mk.inj heq
    obtain ⟨m, rfl, hlength, -, rfl, rfl⟩ := exists_numeral_of_readNumber hblank hread
  · exact ⟨.minus, m, by simp, hsplit, rfl⟩
  · exact ⟨.plus, m, by simp, hsplit, rfl⟩
  · exact ⟨.none, m, fun _ => hlength, hsplit, rfl⟩

theorem readNanos_append {ds rest : List Char} (hne : ds ≠ [])
    (hdigits : ∀ c ∈ ds, c.isDigit = true) (hrest : Stops rest) :
    readNanos (ds ++ rest) = some (fractionIn 1000000000 ds, rest) := by
  have hfirst : ∀ c ∈ ds.take 9, c.isDigit = true := fun c hc => hdigits c (List.mem_of_mem_take hc)
  have hlater : ∀ c ∈ ds.drop 9, c.isDigit = true := fun c hc => hdigits c (List.mem_of_mem_drop hc)
  have hend : (ds.take 9).length = 9 ∨ Stops (ds.drop 9 ++ rest) := by
    by_cases hlong : 9 ≤ ds.length
    · exact .inl (List.length_take_of_le hlong)
    · exact .inr (by rwa [List.drop_of_length_le (by omega), List.nil_append])
  have htake : takeDigits 9 (ds ++ rest) = (ds.take 9, ds.drop 9 ++ rest) := by
    have happend := takeDigits_append hfirst (List.length_take_le 9 ds) hend
    rwa [← List.append_assoc, List.take_append_drop] at happend
  have hempty : (ds.take 9).isEmpty = false := by simpa using hne
  have hdrop : (ds.drop 9 ++ rest).dropWhile Char.isDigit = rest := by
    rw [List.dropWhile_append_of_pos hlater, hrest.dropWhile_isDigit]
  have hvalue : Nat.ofDigitChars 10 (ds.take 9) 0 * Nat.pow 10 (9 - (ds.take 9).length) =
      fractionIn 1000000000 ds := fractionIn_pow 9 hdigits
  rw [readNanos, htake]
  simp only [hempty, hdrop, hvalue, Bool.false_eq_true, if_false]

theorem exists_digits_of_readNanos {n : Nat} {cs rest : List Char}
    (h : readNanos cs = some (n, rest)) : ∃ ds, ds ≠ [] ∧ (∀ c ∈ ds, c.isDigit = true) ∧
      cs = ds ++ rest ∧ n = fractionIn 1000000000 ds := by
  have hdigits : ∀ c ∈ cs.takeWhile Char.isDigit, c.isDigit = true :=
    fun c hc => List.mem_takeWhile_imp hc
  have hstops : Stops (cs.dropWhile Char.isDigit) := by
    intro c hc
    have hhead := List.head?_dropWhile_not Char.isDigit cs
    rwa [hc] at hhead
  have hsplit : cs = cs.takeWhile Char.isDigit ++ cs.dropWhile Char.isDigit :=
    List.takeWhile_append_dropWhile.symm
  have hne : cs.takeWhile Char.isDigit ≠ [] := by
    intro hnil
    rw [hnil, List.nil_append] at hsplit
    have htake : takeDigits 9 cs = ([], cs) :=
      @takeDigits_append [] cs 9 (by simp) (by simp) (.inr (hsplit ▸ hstops))
    simp [readNanos, htake] at h
  rw [hsplit, readNanos_append hne hdigits hstops] at h
  obtain ⟨rfl, rfl⟩ := Prod.mk.inj (Option.some.inj h)
  exact ⟨_, hne, hdigits, hsplit, rfl⟩

theorem readFraction_append {ds rest : List Char} (hdigits : ∀ c ∈ ds, c.isDigit = true)
    (hrest : Stops rest) (hpoint : rest.head? ≠ some '.') :
    readFraction (fractionChars ds ++ rest) = some (fractionIn 1000000000 ds, rest) := by
  cases ds with
  | nil =>
      rw [fractionChars, List.nil_append]
      unfold readFraction
      split
      · simp at hpoint
      · simp [fractionIn]
  | cons d ds => exact readNanos_append (by simp) hdigits hrest

theorem exists_fraction_of_readFraction {n : Nat} {cs rest : List Char}
    (h : readFraction cs = some (n, rest)) : ∃ ds, (∀ c ∈ ds, c.isDigit = true) ∧
      cs = fractionChars ds ++ rest ∧ n = fractionIn 1000000000 ds := by
  unfold readFraction at h
  split at h
  · obtain ⟨ds, hne, hdigits, rfl, rfl⟩ := exists_digits_of_readNanos h
    obtain ⟨d, ds, rfl⟩ := List.exists_cons_of_ne_nil hne
    exact ⟨d :: ds, hdigits, rfl, rfl⟩
  · obtain ⟨rfl, rfl⟩ := Prod.mk.inj (Option.some.inj h)
    exact ⟨[], by simp, rfl, by simp [fractionIn]⟩

theorem readMark_cons (c : Char) (cs : List Char) : readMark c (c :: cs) = some cs := if_pos rfl

section

variable {α : Type} {cs : List Char} {a : α}

theorem exists_numeral_of_bind {width : Nat} (hwidth : width ≠ 0)
    {f : Nat × List Char → Option α} (h : (readExactly width cs >>= f) = some a) :
    ∃ (m : Numeral) (rest : List Char), m.Exact width ∧ cs = m.chars ++ rest ∧
      f (m.value, rest) = some a := by
  obtain ⟨⟨n, rest⟩, hread, hf⟩ := Option.bind_eq_some_iff.mp h
  obtain ⟨m, hexact, hcs, rfl⟩ := exists_numeral_of_readExactly hwidth hread
  exact ⟨m, rest, hexact, hcs, hf⟩

theorem exists_rest_of_bind {c : Char} {f : List Char → Option α}
    (h : (readMark c cs >>= f) = some a) : ∃ rest, cs = c :: rest ∧ f rest = some a := by
  obtain ⟨rest, hread, hf⟩ := Option.bind_eq_some_iff.mp h
  cases cs with
  | nil => cases hread
  | cons d cs =>
      obtain ⟨rfl, heq⟩ := Option.ite_none_right_eq_some.mp hread
      exact ⟨rest, by rw [Option.some.inj heq], hf⟩

end

theorem readOffset_eq_some_iff {minutes : Int} {cs : List Char} :
    readOffset cs = some minutes ↔ ∃ zone : Zone, cs = zone.chars ∧ minutes = zone.minutes := by
  constructor
  · intro h
    cases cs with
    | nil => cases h
    | cons c cs =>
        simp only [readOffset] at h
        split at h
        · rename_i hletter
          obtain ⟨hnil, heq⟩ := Option.ite_none_right_eq_some.mp h
          obtain rfl : cs = [] := by simpa using hnil
          exact ⟨.letter c hletter, rfl, (Option.some.inj heq).symm⟩
        · obtain ⟨hsign, hread⟩ := Option.ite_none_right_eq_some.mp h
          obtain ⟨hours, _, hhours, rfl, hcolon⟩ := exists_numeral_of_bind (by decide) hread
          obtain ⟨_, rfl, hrest⟩ := exists_rest_of_bind hcolon
          obtain ⟨mins, _, hmins, rfl, hend⟩ := exists_numeral_of_bind (by decide) hrest
          obtain ⟨⟨hnil, hlt, hlt'⟩, heq⟩ := Option.ite_none_right_eq_some.mp hend
          obtain rfl := List.isEmpty_iff.mp hnil
          refine ⟨.offset ⟨c, hours, mins, hsign, hhours, hmins, hlt', hlt⟩, ?_, ?_⟩
          · rw [List.append_nil]
            rfl
          · exact (Option.some.inj heq).symm
  · rintro ⟨zone, rfl, rfl⟩
    cases zone with
    | letter c h => simp [Zone.chars, readOffset, h, Zone.minutes]
    | offset o =>
        have hletter : ¬ (o.sign = 'Z' ∨ o.sign = 'z') := by
          rcases o.signed with h | h | h <;> rw [h] <;> decide
        have hminutes := o.minutes_exact.readExactly_chars []
        rw [List.append_nil] at hminutes
        rw [Zone.chars, readOffset, if_neg hletter, if_pos o.signed]
        refine (Text.bind_of_eq_some (o.hours_exact.readExactly_chars _) _).trans ?_
        refine (Text.bind_of_eq_some (readMark_cons ':' _) _).trans ?_
        refine (Text.bind_of_eq_some hminutes _).trans ?_
        exact if_pos ⟨rfl, o.minutes_lt, o.hours_lt⟩

theorem Numeral.stops_append_iff (m : Numeral) (rest : List Char) :
    Stops (m.chars ++ rest) ↔ m.blanks ≠ [] := by
  obtain ⟨blanks, ds, hblank, hdigit, hwritten⟩ := m
  cases blanks with
  | nil =>
      obtain ⟨d, ds, rfl⟩ := List.exists_cons_of_ne_nil hwritten
      have hd : d.isDigit = true := hdigit d (by simp)
      simp [Stops, chars, hd]
  | cons b blanks =>
      have hb : b.isDigit = false := by
        refine Bool.eq_false_iff.mpr fun hdigit => ?_
        have hnot := Text.isBlank_of_isDigit hdigit
        rw [hblank b (by simp)] at hnot
        contradiction
      simp [Stops, chars, hb]

theorem Zone.exists_chars_eq (z : Zone) :
    ∃ c rest, z.chars = c :: rest ∧ c.isDigit = false ∧ c ≠ '.' := by
  cases z with
  | letter c h =>
      refine ⟨c, [], rfl, ?_⟩
      rcases h with rfl | rfl <;> decide
  | offset o =>
      refine ⟨o.sign, _, rfl, ?_⟩
      rcases o.signed with h | h | h <;> rw [h] <;> decide

theorem readFraction_zone {ds : List Char} (h : ∀ c ∈ ds, c.isDigit = true) (zone : Zone) :
    readFraction (fractionChars ds ++ zone.chars) =
      some (fractionIn 1000000000 ds, zone.chars) := by
  obtain ⟨c, rest, hchars, hdigit, hpoint⟩ := zone.exists_chars_eq
  rw [hchars]
  exact readFraction_append h (stops_cons hdigit rest) (by simpa using hpoint)

end Rostering.Calendar
