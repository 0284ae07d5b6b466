import Rostering.Calendar.Timestamp

namespace Rostering.Calendar

theorem isLeapYear_iff (year : Int) :
    isLeapYear year = true ↔ year % 4 = 0 ∧ (year % 100 ≠ 0 ∨ year % 400 = 0) := by
  simp [isLeapYear]

theorem daysOfMonths_monthLengths (year : Int) :
    daysOfMonths (monthLengths year) = if isLeapYear year then 366 else 365 := by
  cases h : isLeapYear year <;> simp [monthLengths, daysOfMonths, h]

theorem daysOfMonths_take_lt {lengths : List Nat} {i k : Nat} (h : k < lengths.getD i 0) :
    daysOfMonths (lengths.take i) + k < daysOfMonths lengths := by
  induction lengths generalizing i with
  | nil => simp at h
  | cons length rest ih =>
      cases i with
      | zero =>
          have hk : k < length := by simpa using h
          simp only [List.take_zero, daysOfMonths]
          omega
      | succ i =>
          have hrest := ih (i := i) (by simpa using h)
          simp only [List.take_succ_cons, daysOfMonths]
          omega

theorem monthAndDay_daysOfMonths {lengths : List Nat} {i k : Nat} (h : k < lengths.getD i 0)
    (month : Nat) :
    monthAndDay lengths month (daysOfMonths (lengths.take i) + k) = (month + i, k + 1) := by
  induction lengths generalizing i month with
  | nil => simp at h
  | cons length rest ih =>
      cases i with
      | zero =>
          have hk : k < length := by simpa using h
          simp [daysOfMonths, monthAndDay, hk]
      | succ i =>
          have hrest := ih (i := i) (by simpa using h) (month + 1)
          have hpast : ¬ length + daysOfMonths (rest.take i) + k < length := by omega
          have hleft : length + daysOfMonths (rest.take i) + k - length =
              daysOfMonths (rest.take i) + k := by omega
          simp only [List.take_succ_cons, daysOfMonths, monthAndDay, if_neg hpast, hleft, hrest,
            Prod.mk.injEq, and_true]
          omega

def Date.dayOfYear (d : Date) : Nat :=
  daysOfMonths ((monthLengths d.year).take (d.month - 1)) + (d.day - 1)

namespace Date.Valid

variable {d : Date} (h : d.Valid)

include h

theorem day_lt : d.day - 1 < (monthLengths d.year).getD (d.month - 1) 0 := by
  obtain ⟨-, -, -, -, hday, hlast⟩ := h
  have hdays : daysInMonth d.year d.month = (monthLengths d.year).getD (d.month - 1) 0 := rfl
  omega

theorem dayOfYear_lt : d.dayOfYear < if isLeapYear d.year then 366 else 365 := by
  rw [← daysOfMonths_monthLengths]
  exact daysOfMonths_take_lt h.day_lt

theorem monthAndDay_dayOfYear :
    monthAndDay (monthLengths d.year) 1 d.dayOfYear = (d.month, d.day) := by
  obtain ⟨-, -, hmonth, -, hday, -⟩ := id h
  rw [Date.dayOfYear, monthAndDay_daysOfMonths h.day_lt]
  ext
  · omega
  · omega

theorem dayNumber_eq : d.dayNumber = daysBeforeYear d.year + d.dayOfYear := by
  obtain ⟨-, -, -, -, hday, -⟩ := h
  simp only [Date.dayNumber, Date.dayOfYear]
  omega

end Date.Valid

theorem min_div_of_longer {length index rest : Nat} (hlength : 0 < length) (hindex : index < 4)
    (h : rest < length ∨ index = 3 ∧ rest = length) :
    min 3 ((length * index + rest) / length) = index := by
  rw [Nat.mul_add_div hlength]
  rcases h with h | ⟨rfl, rfl⟩
  · rw [Nat.div_eq_of_lt h]
    omega
  · rw [Nat.div_self hlength]
    rfl

structure Cycles where
  cycle : Int
  century : Nat
  four : Nat
  single : Nat
  century_lt : century < 4
  four_lt : four < 25
  single_lt : single < 4

namespace Cycles

variable (y : Cycles)

def year : Int := 400 * y.cycle + 100 * y.century + 4 * y.four + y.single + 1

theorem exists_year_eq (year : Int) : ∃ y : Cycles, y.year = year := by
  refine ⟨⟨(year - 1) / 400, ((year - 1) % 400 / 100).toNat, ((year - 1) % 100 / 4).toNat,
    ((year - 1) % 4).toNat, ?_, ?_, ?_⟩, ?_⟩
  · omega
  · omega
  · omega
  · simp only [Cycles.year]
    omega

theorem daysBeforeYear_year : daysBeforeYear y.year =
    146097 * y.cycle + 36524 * y.century + 1461 * y.four + 365 * y.single := by
  have := y.century_lt
  have := y.four_lt
  have := y.single_lt
  simp only [daysBeforeYear, year]
  omega

theorem isLeapYear_year :
    isLeapYear y.year = true ↔ y.single = 3 ∧ (y.four = 24 → y.century = 3) := by
  have := y.century_lt
  have := y.four_lt
  have := y.single_lt
  rw [isLeapYear_iff]
  simp only [year]
  omega

theorem lastDay_or {dayOfYear : Nat} (h : dayOfYear < if isLeapYear y.year then 366 else 365) :
    (dayOfYear < 365 ∨ y.single = 3 ∧ dayOfYear = 365) ∧
      (365 ≤ dayOfYear → y.four = 24 → y.century = 3) := by
  split at h
  · rename_i hleap
    obtain ⟨hsingle, hcentury⟩ := y.isLeapYear_year.mp hleap
    exact ⟨by omega, fun _ => hcentury⟩
  · exact ⟨.inl h, by omega⟩

def inFour (dayOfYear : Nat) : Nat := 365 * y.single + dayOfYear

def inCentury (dayOfYear : Nat) : Nat := 1461 * y.four + y.inFour dayOfYear

def inCycle (dayOfYear : Nat) : Nat := 36524 * y.century + y.inCentury dayOfYear

theorem daysBeforeYear_add (dayOfYear : Nat) :
    daysBeforeYear y.year + dayOfYear = 146097 * y.cycle + y.inCycle dayOfYear := by
  rw [y.daysBeforeYear_year]
  simp only [inCycle, inCentury, inFour]
  omega

section

variable {dayOfYear : Nat} (h : dayOfYear < if isLeapYear y.year then 366 else 365)

include h

theorem inFour_lt : y.inFour dayOfYear < 1461 := by
  have hday := (y.lastDay_or h).1
  have := y.single_lt
  simp only [inFour]
  omega

theorem inCentury_or :
    y.inCentury dayOfYear < 36524 ∨ y.century = 3 ∧ y.inCentury dayOfYear = 36524 := by
  obtain ⟨hday, hleap⟩ := y.lastDay_or h
  have := y.four_lt
  have := y.single_lt
  simp only [inCentury, inFour]
  omega

theorem inCycle_lt : y.inCycle dayOfYear < 146097 := by
  have hcentury := y.inCentury_or h
  have := y.century_lt
  simp only [inCycle]
  omega

theorem ofDayNumber_year : ofDayNumber (daysBeforeYear y.year + dayOfYear) =
    ⟨y.year, (monthAndDay (monthLengths y.year) 1 dayOfYear).1,
      (monthAndDay (monthLengths y.year) 1 dayOfYear).2⟩ := by
  have hcycle : (146097 * y.cycle + (y.inCycle dayOfYear : Int)) / 146097 = y.cycle := by
    have := y.inCycle_lt h
    omega
  have hinCycle : ((146097 * y.cycle + (y.inCycle dayOfYear : Int)) % 146097).toNat =
      y.inCycle dayOfYear := by
    have := y.inCycle_lt h
    omega
  have hcentury : min 3 (y.inCycle dayOfYear / 36524) = y.century :=
    min_div_of_longer (by decide) y.century_lt (y.inCentury_or h)
  have hinCentury : y.inCycle dayOfYear - y.century * 36524 = y.inCentury dayOfYear := by
    simp only [inCycle]
    omega
  have hfour : y.inCentury dayOfYear / 1461 = y.four ∧
      y.inCentury dayOfYear % 1461 = y.inFour dayOfYear := by
    have := y.inFour_lt h
    simp only [inCentury]
    omega
  have hsingle : min 3 (y.inFour dayOfYear / 365) = y.single :=
    min_div_of_longer (by decide) y.single_lt (y.lastDay_or h).1
  have hday : y.inFour dayOfYear - y.single * 365 = dayOfYear := by
    simp only [inFour]
    omega
  have hyear : y.cycle * 400 + ((y.century * 100 + y.four * 4 + y.single : Nat) : Int) + 1 =
      y.year := by
    simp only [year]
    omega
  rw [y.daysBeforeYear_add, ofDayNumber, hcycle, hinCycle, hcentury, hinCentury, hfour.1, hfour.2,
    hsingle, hday]
  simp only [hyear]

end

end Cycles

theorem Date.Valid.ofDayNumber_dayNumber {d : Date} (h : d.Valid) :
    ofDayNumber d.dayNumber = d := by
  obtain ⟨y, hyear⟩ := Cycles.exists_year_eq d.year
  have hday := h.dayOfYear_lt
  rw [h.dayNumber_eq, ← hyear, y.ofDayNumber_year (hyear ▸ hday), hyear, h.monthAndDay_dayOfYear]

theorem Date.Valid.ofDayNumber?_dayNumber {d : Date} (h : d.Valid) :
    ofDayNumber? d.dayNumber = some d := by
  rw [ofDayNumber?, h.ofDayNumber_dayNumber]
  exact if_pos h

theorem Timestamp.Valid.shift?_zero {t : Timestamp} (h : t.Valid) : t.shift? 0 = some t := by
  obtain ⟨hdate, hhour, hminute, -, -⟩ := h
  have hday : (t.minutes + 0) / 1440 = t.date.dayNumber := by
    simp only [Timestamp.minutes]
    omega
  have hrest : ((t.minutes + 0) % 1440).toNat = t.clock.hour * 60 + t.clock.minute := by
    simp only [Timestamp.minutes]
    omega
  have hhours : (t.clock.hour * 60 + t.clock.minute) / 60 = t.clock.hour := by omega
  have hminutes : (t.clock.hour * 60 + t.clock.minute) % 60 = t.clock.minute := by omega
  simp only [Timestamp.shift?, hday, hrest, hdate.ofDayNumber?_dayNumber, hhours, hminutes]
  rfl

end Rostering.Calendar
