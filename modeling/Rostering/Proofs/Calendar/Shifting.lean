import Rostering.Proofs.Calendar.DayNumber

namespace Rostering.Calendar

def Date.next (d : Date) : Date :=
  if d.day < daysInMonth d.year d.month then { d with day := d.day + 1 }
  else if d.month < 12 then ⟨d.year, d.month + 1, 1⟩
  else ⟨d.year + 1, 1, 1⟩

theorem daysBeforeYear_succ (year : Int) :
    daysBeforeYear (year + 1) = daysBeforeYear year + daysOfMonths (monthLengths year) := by
  have hleap := isLeapYear_iff year
  rw [daysOfMonths_monthLengths]
  simp only [daysBeforeYear]
  cases h : isLeapYear year with
  | false =>
      have hcommon : ¬ (year % 4 = 0 ∧ (year % 100 ≠ 0 ∨ year % 400 = 0)) := by
        rw [← hleap, h]
        exact Bool.false_ne_true
      simp only [Bool.false_eq_true, if_false]
      omega
  | true =>
      obtain ⟨hfour, hcentury⟩ := hleap.mp h
      simp only [if_true]
      omega

theorem daysOfMonths_take_succ (lengths : List Nat) (i : Nat) :
    daysOfMonths (lengths.take (i + 1)) = daysOfMonths (lengths.take i) + lengths.getD i 0 := by
  induction lengths generalizing i with
  | nil => simp [daysOfMonths]
  | cons length rest ih =>
      cases i with
      | zero => simp [daysOfMonths]
      | succ i =>
          have hrest := ih i
          simp only [List.take_succ_cons, daysOfMonths, List.getD_cons_succ] at hrest ⊢
          omega

-- The day numbers count the days of the calendar one by one.
theorem Date.Valid.dayNumber_next {d : Date} (h : d.Valid) :
    d.next.dayNumber = d.dayNumber + 1 := by
  obtain ⟨-, -, hmonth, hdecember, hday, hlast⟩ := h
  have hlength : daysInMonth d.year d.month = (monthLengths d.year).getD (d.month - 1) 0 := rfl
  have hmonths := daysOfMonths_take_succ (monthLengths d.year) (d.month - 1)
  rw [Nat.sub_add_cancel hmonth] at hmonths
  unfold Date.next
  split
  · simp only [Date.dayNumber]
    omega
  · split
    · simp only [Date.dayNumber, Nat.add_sub_cancel]
      omega
    · have htwelve : (monthLengths d.year).length = 12 := rfl
      have hwhole : (monthLengths d.year).take d.month = monthLengths d.year :=
        List.take_of_length_le (by omega)
      have hyear := daysBeforeYear_succ d.year
      have hjanuary : daysOfMonths ((monthLengths (d.year + 1)).take (1 - 1)) = 0 := rfl
      rw [hwhole] at hmonths
      simp only [Date.dayNumber, hjanuary]
      omega

theorem monthAndDay_of_lt {lengths : List Nat} {k : Nat} (h : k < daysOfMonths lengths)
    (month : Nat) : ∃ i j, monthAndDay lengths month k = (month + i, j + 1) ∧
      j < lengths.getD i 0 ∧ k = daysOfMonths (lengths.take i) + j := by
  induction lengths generalizing k month with
  | nil => simp [daysOfMonths] at h
  | cons length rest ih =>
      by_cases hk : k < length
      · exact ⟨0, k, by simp [monthAndDay, hk], by simpa using hk, by simp [daysOfMonths]⟩
      · have hlater : k - length < daysOfMonths rest := by
          simp only [daysOfMonths] at h
          omega
        obtain ⟨i, j, heq, hj, hsum⟩ := ih hlater (month + 1)
        refine ⟨i + 1, j, ?_, by simpa using hj, ?_⟩
        · rw [monthAndDay, if_neg hk, heq, Nat.add_right_comm]
          rfl
        · simp only [List.take_succ_cons, daysOfMonths]
          omega

theorem exists_div_of_longer {length n : Nat} (hlength : 0 < length) (h : n ≤ 4 * length) :
    ∃ index rest, index < 4 ∧ n = length * index + rest ∧
      (rest < length ∨ index = 3 ∧ rest = length) := by
  by_cases hlast : n = 4 * length
  · exact ⟨3, length, by decide, by omega, .inr ⟨rfl, rfl⟩⟩
  · have hindex : n / length < 4 := Nat.div_lt_of_lt_mul (by rw [Nat.mul_comm]; omega)
    exact ⟨n / length, n % length, hindex, (Nat.div_add_mod n length).symm,
      .inl (Nat.mod_lt n hlength)⟩

theorem Cycles.exists_dayOfYear (n : Int) : ∃ (y : Cycles) (dayOfYear : Nat),
    (dayOfYear < if isLeapYear y.year then 366 else 365) ∧
      n = daysBeforeYear y.year + dayOfYear := by
  have hinCycle : (n % 146097).toNat ≤ 4 * 36524 := by omega
  obtain ⟨century, inCentury, hcentury, hsplit, hlastCentury⟩ :=
    exists_div_of_longer (by decide) hinCycle
  have hinFour : inCentury % 1461 ≤ 4 * 365 := by omega
  obtain ⟨single, dayOfYear, hsingle, hsplit', hlastYear⟩ :=
    exists_div_of_longer (by decide) hinFour
  have hfour : inCentury / 1461 < 25 := by omega
  let y : Cycles := ⟨n / 146097, century, inCentury / 1461, single, hcentury, hfour, hsingle⟩
  have hleap : isLeapYear y.year = true ↔
      single = 3 ∧ (inCentury / 1461 = 24 → century = 3) := y.isLeapYear_year
  have hbefore : daysBeforeYear y.year = 146097 * (n / 146097) + 36524 * (century : Int) +
      1461 * (inCentury / 1461 : Nat) + 365 * (single : Int) := y.daysBeforeYear_year
  refine ⟨y, dayOfYear, ?_, by omega⟩
  split
  · omega
  · rename_i hcommon
    rw [hleap] at hcommon
    omega

def Date.Proper (d : Date) : Prop :=
  1 ≤ d.month ∧ d.month ≤ 12 ∧ 1 ≤ d.day ∧ d.day ≤ daysInMonth d.year d.month

theorem exists_ofDayNumber (n : Int) : ∃ d, ofDayNumber n = d ∧ d.dayNumber = n ∧ d.Proper ∧
    daysBeforeYear d.year ≤ n ∧ n < daysBeforeYear (d.year + 1) := by
  obtain ⟨y, dayOfYear, hday, rfl⟩ := Cycles.exists_dayOfYear n
  have hlt : dayOfYear < daysOfMonths (monthLengths y.year) := by
    rwa [daysOfMonths_monthLengths]
  obtain ⟨i, j, hmonth, hj, hsum⟩ := monthAndDay_of_lt hlt 1
  have hi : i < 12 := by
    refine Nat.lt_of_not_le fun hge => ?_
    have hnone : (monthLengths y.year)[i]? = none := List.getElem?_eq_none hge
    simp [List.getD_eq_getElem?_getD, hnone] at hj
  have hlength : daysInMonth y.year (1 + i) = (monthLengths y.year).getD i 0 := by
    rw [daysInMonth, Nat.add_sub_cancel_left]
  refine ⟨⟨y.year, 1 + i, j + 1⟩, by rw [y.ofDayNumber_year hday, hmonth], ?_, ⟨?_, ?_, ?_, ?_⟩,
    ?_, ?_⟩
  · simp only [Date.dayNumber, Nat.add_sub_cancel_left]
    omega
  · exact Nat.le_add_right 1 i
  · exact Nat.add_comm 1 i ▸ hi
  · exact Nat.le_add_left 1 j
  · exact hlength ▸ hj
  · exact Int.le_add_of_nonneg_right (Int.natCast_nonneg dayOfYear)
  · rw [daysBeforeYear_succ]
    exact Int.add_lt_add_left (Int.ofNat_lt.mpr hlt) _

theorem valid_of_mem_ofDayNumber? {n : Int} : ∀ d ∈ ofDayNumber? n, d.Valid := by
  intro d h
  obtain ⟨hvalid, heq⟩ := Option.ite_none_right_eq_some.mp h
  exact Option.some.inj heq ▸ hvalid

theorem dayNumber_of_mem_ofDayNumber? {n : Int} : ∀ d ∈ ofDayNumber? n, d.dayNumber = n := by
  intro d h
  obtain ⟨-, heq⟩ := Option.ite_none_right_eq_some.mp h
  obtain ⟨d', rfl, hnumber, -⟩ := exists_ofDayNumber n
  exact Option.some.inj heq ▸ hnumber

theorem daysBeforeYear_mono {a b : Int} (h : a ≤ b) : daysBeforeYear a ≤ daysBeforeYear b := by
  simp only [daysBeforeYear]
  omega

theorem exists_ofDayNumber?_of_bounds {n : Int} (hlow : daysBeforeYear minYear ≤ n)
    (hhigh : n < daysBeforeYear (maxYear + 1)) : ∃ d, ofDayNumber? n = some d := by
  obtain ⟨d, heq, -, hproper, hyear, hnext⟩ := exists_ofDayNumber n
  have hfirst : minYear ≤ d.year := by
    refine Int.not_lt.mp fun hlt => ?_
    have hmono : daysBeforeYear (d.year + 1) ≤ daysBeforeYear minYear := daysBeforeYear_mono hlt
    omega
  have hfinal : d.year ≤ maxYear := by
    refine Int.not_lt.mp fun hlt => ?_
    have hmono : daysBeforeYear (maxYear + 1) ≤ daysBeforeYear d.year := daysBeforeYear_mono hlt
    omega
  have hvalid : d.Valid := ⟨hfirst, hfinal, hproper⟩
  exact ⟨d, by rw [ofDayNumber?, heq]; exact if_pos hvalid⟩

namespace Timestamp

theorem of_mem_shift? {t : Timestamp} {minutes : Int} : ∀ moved ∈ t.shift? minutes,
    moved.minutes = t.minutes + minutes ∧ moved.clock.second = t.clock.second ∧
      moved.clock.nano = t.clock.nano := by
  intro moved h
  obtain ⟨date, hdate, heq⟩ := Option.bind_eq_some_iff.mp h
  have hnumber := dayNumber_of_mem_ofDayNumber? date hdate
  obtain rfl := Option.some.inj heq
  refine ⟨?_, rfl, rfl⟩
  rw [Timestamp.minutes, hnumber]
  dsimp only
  omega

theorem Valid.of_mem_shift? {t : Timestamp} (h : t.Valid) {minutes : Int} :
    ∀ moved ∈ t.shift? minutes, moved.Valid := by
  intro moved hmoved
  obtain ⟨date, hdate, heq⟩ := Option.bind_eq_some_iff.mp hmoved
  obtain rfl := Option.some.inj heq
  obtain ⟨-, -, -, hsecond, hnano⟩ := h
  have hhour : ((t.minutes + minutes) % 1440).toNat / 60 < 24 := by omega
  have hminute : ((t.minutes + minutes) % 1440).toNat % 60 < 60 := by omega
  exact ⟨valid_of_mem_ofDayNumber? date hdate, hhour, hminute, hsecond, hnano⟩

theorem Valid.eq_of_minutes {t u : Timestamp} (ht : t.Valid) (hu : u.Valid)
    (hminutes : t.minutes = u.minutes) (hsecond : t.clock.second = u.clock.second)
    (hnano : t.clock.nano = u.clock.nano) : t = u := by
  obtain ⟨hdate, hhour, hminute, -⟩ := ht
  obtain ⟨hdate', hhour', hminute', -⟩ := hu
  have hparts : t.date.dayNumber = u.date.dayNumber ∧ t.clock.hour = u.clock.hour ∧
      t.clock.minute = u.clock.minute := by
    simp only [Timestamp.minutes] at hminutes
    omega
  have hsame : t.date = u.date := by
    rw [← hdate.ofDayNumber_dayNumber, hparts.1, hdate'.ofDayNumber_dayNumber]
  obtain ⟨date, hour, minute, second, nano⟩ := t
  obtain ⟨date', hour', minute', second', nano'⟩ := u
  simp_all

theorem exists_shift? {t : Timestamp} (h : t.Valid) (hlow : 0 ≤ t.date.year)
    (hhigh : t.date.year ≤ 9999) (minutes : Int) (hback : -1440 ≤ minutes)
    (hforth : minutes ≤ 1440) : ∃ moved, t.shift? minutes = some moved := by
  have hnumber := h.1.dayNumber_eq
  have hday := h.1.dayOfYear_lt
  rw [← daysOfMonths_monthLengths] at hday
  have hfirst : daysBeforeYear 0 ≤ daysBeforeYear t.date.year := daysBeforeYear_mono hlow
  have hlast : daysBeforeYear (t.date.year + 1) ≤ daysBeforeYear 10000 :=
    daysBeforeYear_mono (by omega)
  rw [daysBeforeYear_succ] at hlast
  have hbounds : daysBeforeYear minYear + 2 ≤ daysBeforeYear 0 ∧
      daysBeforeYear 10000 + 2 ≤ daysBeforeYear (maxYear + 1) := by decide
  obtain ⟨-, hhour, hminute, -⟩ := h
  have hminutes : t.minutes = t.date.dayNumber * 1440 + t.clock.hour * 60 + t.clock.minute := rfl
  obtain ⟨date, hdate⟩ := exists_ofDayNumber?_of_bounds (n := (t.minutes + minutes) / 1440)
    (by omega) (by omega)
  exact ⟨_, by rw [shift?, hdate]; rfl⟩

end Timestamp

end Rostering.Calendar
