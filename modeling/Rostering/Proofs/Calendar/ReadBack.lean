import Rostering.Proofs.Calendar.Acceptance

namespace Rostering.Calendar

open Text (padded)

def Clock.toMillis (c : Clock) : Clock := { c with nano := c.nano / 1000000 * 1000000 }

def Timestamp.toMillis (t : Timestamp) : Timestamp := { t with clock := t.clock.toMillis }

theorem Timestamp.Valid.toMillis {t : Timestamp} (h : t.Valid) : t.toMillis.Valid := by
  obtain ⟨hdate, hhour, hminute, hsecond, hnano⟩ := h
  have hmillis : t.clock.nano / 1000000 * 1000000 < 1000000000 := by omega
  exact ⟨hdate, hhour, hminute, hsecond, hmillis⟩

theorem Date.Valid.month_lt {d : Date} (h : d.Valid) : d.month < 100 := by
  obtain ⟨-, -, -, hmonth, -, -⟩ := h
  omega

theorem Date.Valid.day_lt_hundred {d : Date} (h : d.Valid) : d.day < 100 := by
  have hlast : ∀ (year : Int) (month : Nat), daysInMonth year month ≤ 31 := by
    intro year month
    have hall : ∀ length ∈ monthLengths year, length ≤ 31 := by
      cases hleap : isLeapYear year <;> simp [monthLengths, hleap]
    rw [daysInMonth, List.getD_eq_getElem?_getD]
    cases hmonth : (monthLengths year)[month - 1]? with
    | none => simp
    | some length => exact hall length (List.mem_of_getElem? hmonth)
  obtain ⟨-, -, -, -, -, hday⟩ := h
  have := hlast d.year d.month
  omega

def Numeral.ofPadded (width n : Nat) : Numeral where
  blanks := []
  digits := padded width n
  blank := by simp [Text.Blank]
  digit _ := Text.mem_padded_isDigit
  written := Text.padded_ne_nil width n

theorem Numeral.ofPadded_value (width n : Nat) : (ofPadded width n).value = n :=
  Text.ofDigitChars_padded width n

theorem Numeral.ofPadded_exact {width n : Nat} (hwidth : 0 < width) (h : n < Nat.pow 10 width) :
    (ofPadded width n).Exact width :=
  ⟨rfl, Text.length_padded hwidth h⟩

theorem exists_sign_of_year (year : Int) : ∃ (sign : Sign) (n : Nat),
    yearChars year = sign.chars ++ padded 4 n ∧ sign.apply n = year ∧
      (sign = .none ↔ 0 ≤ year ∧ year ≤ 9999) := by
  unfold yearChars
  by_cases hplain : 0 ≤ year ∧ year ≤ 9999
  · refine ⟨.none, year.toNat, by rw [if_pos hplain]; rfl, ?_, by simp [hplain]⟩
    exact Int.toNat_of_nonneg hplain.1
  · rw [if_neg hplain]
    by_cases hnegative : year < 0
    · refine ⟨.minus, year.natAbs, by rw [if_pos hnegative]; rfl, ?_, by simp [hplain]⟩
      simp only [Sign.apply]
      omega
    · refine ⟨.plus, year.natAbs, by rw [if_neg hnegative]; rfl, ?_, by simp [hplain]⟩
      simp only [Sign.apply]
      omega

theorem Date.Valid.exists_dayText {d : Date} (h : d.Valid) : ∃ day : DayText,
    day.chars = d.chars ∧ day.date = d ∧ (0 ≤ d.year → d.year ≤ 9999 → day.Exact) := by
  obtain ⟨sign, n, hchars, hvalue, hplain⟩ := exists_sign_of_year d.year
  have hyear : sign = .none → (Numeral.ofPadded 4 n).Exact 4 := by
    intro hsign
    have hbounds := hplain.mp hsign
    rw [← hvalue, hsign] at hbounds
    have hn : n < 10000 := by
      simp only [Sign.apply] at hbounds
      omega
    exact Numeral.ofPadded_exact (by decide) hn
  have hmonth := Numeral.ofPadded_exact (by decide : 0 < 2) h.month_lt
  have hday := Numeral.ofPadded_exact (by decide : 0 < 2) h.day_lt_hundred
  refine ⟨⟨sign, .ofPadded 4 n, .ofPadded 2 d.month, .ofPadded 2 d.day,
    fun hsign => (hyear hsign).2.le, hmonth.2.le, hday.2.le⟩, ?_, ?_, ?_⟩
  · rw [Date.chars, hchars, List.append_assoc]
    rfl
  · simp only [DayText.date, Numeral.ofPadded_value, hvalue]
  · intro hlow hhigh
    have hsign := hplain.mpr ⟨hlow, hhigh⟩
    exact ⟨hsign, hyear hsign, hmonth, hday⟩

theorem Clock.Valid.exists_clockText {c : Clock} (h : c.Valid) :
    ∃ k : ClockText, k.chars = c.chars ∧ k.clock = c.toMillis ∧ k.Exact := by
  obtain ⟨hhour, hminute, hsecond, hnano⟩ := h
  have htwo {n : Nat} (hn : n < 100) : (Numeral.ofPadded 2 n).Exact 2 :=
    Numeral.ofPadded_exact (by decide) hn
  have hhours := htwo (n := c.hour) (by omega)
  have hminutes := htwo (n := c.minute) (by omega)
  have hseconds := htwo (n := c.second) (by omega)
  have hmillis : (padded 3 (c.nano / 1000000)).length = 3 := by
    refine Text.length_padded (by decide) (?_ : c.nano / 1000000 < 1000)
    omega
  refine ⟨⟨⟨.ofPadded 2 c.hour, .ofPadded 2 c.minute, hhours.2.le, hminutes.2.le⟩,
    .ofPadded 2 c.second, padded 3 (c.nano / 1000000), hseconds.2.le,
    fun _ => Text.mem_padded_isDigit⟩, ?_, ?_, hhours, hminutes, hseconds⟩
  · obtain ⟨d, ds, hcons⟩ := List.exists_cons_of_ne_nil (Text.padded_ne_nil 3 (c.nano / 1000000))
    simp [ClockText.chars, MinuteText.chars, Clock.chars, hcons, fractionChars, Numeral.chars,
      Numeral.ofPadded]
  · have hfraction : fractionIn 1000000000 (padded 3 (c.nano / 1000000)) = c.toMillis.nano := by
      have hthousand : Nat.pow 10 3 = 1000 := rfl
      rw [fractionIn, Text.ofDigitChars_padded, hmillis, hthousand]
      simp only [Clock.toMillis]
      omega
    simp only [ClockText.clock, Numeral.ofPadded_value, hfraction]
    rfl

theorem readDate_text {d : Date} (h : d.Valid) : readDate d.text.toList = some d := by
  obtain ⟨day, hchars, hdate, -⟩ := h.exists_dayText
  rw [Date.text, String.toList_ofList]
  exact readDate_eq_some_iff.mpr ⟨day, hchars, hdate ▸ h, hdate⟩

theorem readTimestamp_literalChars {t : Timestamp} (h : t.Valid) :
    readTimestamp t.literalChars = some t.toMillis := by
  obtain ⟨day, hday, hdate, -⟩ := h.1.exists_dayText
  obtain ⟨k, hk, hclock, -⟩ := h.2.exists_clockText
  have hwall : (Spelling.full day k).wall = t.toMillis := by
    rw [Spelling.wall, hdate, hclock]
    rfl
  refine readTimestamp_eq_some_iff.mpr ⟨.full day k, ?_, ?_⟩
  · rw [Spelling.chars, hday, hk]
    rfl
  · exact (Spelling.gives_iff_of_offset rfl).mpr ⟨trivial, hwall ▸ h.toMillis, hwall⟩

-- A literal is read by the format without a zone, whichever spelling it was made from.
theorem readTimestamp_literal {t : Timestamp} (h : t.Valid) :
    readTimestamp t.literal.toList = some t.toMillis := by
  rw [Timestamp.literal, String.toList_ofList]
  exact readTimestamp_literalChars h

theorem readTimestamp_reported {t : Timestamp} (h : t.Valid) (hlow : 0 ≤ t.date.year)
    (hhigh : t.date.year ≤ 9999) : readTimestamp (t.literalChars ++ ['Z']) = some t.toMillis := by
  obtain ⟨day, hday, hdate, hexact⟩ := h.1.exists_dayText
  obtain ⟨k, hk, hclock, hexact'⟩ := h.2.exists_clockText
  have hwall : (Spelling.zoned day 'T' k (.letter 'Z' (.inl rfl))).wall = t.toMillis := by
    rw [Spelling.wall, hdate, hclock]
    rfl
  refine readTimestamp_eq_some_iff.mpr ⟨.zoned day 'T' k (.letter 'Z' (.inl rfl)), ?_, ?_⟩
  · rw [Spelling.chars, hday, hk, Timestamp.literalChars, List.append_assoc]
    rfl
  · exact (Spelling.gives_iff_of_offset rfl).mpr
      ⟨⟨hexact hlow hhigh, hexact', .inl rfl⟩, hwall ▸ h.toMillis, hwall⟩

theorem toMillis_literalChars (t : Timestamp) : t.toMillis.literalChars = t.literalChars := by
  have hnano : t.clock.nano / 1000000 * 1000000 / 1000000 = t.clock.nano / 1000000 := by omega
  simp [Timestamp.literalChars, Timestamp.toMillis, Clock.toMillis, Clock.chars, hnano]

theorem toMillis_literal (t : Timestamp) : t.toMillis.literal = t.literal := by
  rw [Timestamp.literal, toMillis_literalChars, Timestamp.literal]

end Rostering.Calendar
