import Rostering.Proofs.Calendar.Digits
import Rostering.Proofs.Text.Trimming

namespace Rostering.Calendar

structure Numeral where
  blanks : List Char
  digits : List Char
  blank : Text.Blank blanks
  digit : ∀ c ∈ digits, c.isDigit = true
  written : digits ≠ []

namespace Numeral

def chars (n : Numeral) : List Char := n.blanks ++ n.digits

def value (n : Numeral) : Nat := Nat.ofDigitChars 10 n.digits 0

def Exact (n : Numeral) (width : Nat) : Prop := n.blanks = [] ∧ n.digits.length = width

end Numeral

inductive Sign where
  | none | plus | minus
deriving DecidableEq, Repr

def Sign.chars : Sign → List Char
  | .none => []
  | .plus => ['+']
  | .minus => ['-']

def Sign.apply : Sign → Nat → Int
  | .minus, n => -(n : Int)
  | _, n => n

structure DayText where
  sign : Sign
  year : Numeral
  month : Numeral
  day : Numeral
  year_fits : sign = .none → year.digits.length ≤ 4
  month_fits : month.digits.length ≤ 2
  day_fits : day.digits.length ≤ 2

namespace DayText

def chars (d : DayText) : List Char :=
  d.year.blanks ++ (d.sign.chars ++ (d.year.digits ++
    '-' :: (d.month.chars ++ '-' :: d.day.chars)))

def date (d : DayText) : Date := ⟨d.sign.apply d.year.value, d.month.value, d.day.value⟩

structure Exact (d : DayText) : Prop where
  sign : d.sign = .none
  year : d.year.Exact 4
  month : d.month.Exact 2
  day : d.day.Exact 2

end DayText

structure MinuteText where
  hour : Numeral
  minute : Numeral
  hour_fits : hour.digits.length ≤ 2
  minute_fits : minute.digits.length ≤ 2

namespace MinuteText

def chars (m : MinuteText) : List Char := m.hour.chars ++ ':' :: m.minute.chars

def clock (m : MinuteText) : Clock := ⟨m.hour.value, m.minute.value, 0, 0⟩

end MinuteText

def fractionChars : List Char → List Char
  | [] => []
  | ds => '.' :: ds

def fractionIn (unit : Nat) (ds : List Char) : Nat :=
  Nat.ofDigitChars 10 ds 0 * unit / Nat.pow 10 ds.length

-- Digits past the last one that the unit has room for count nothing.
theorem fractionIn_pow (k : Nat) {ds : List Char} (h : ∀ c ∈ ds, c.isDigit = true) :
    Nat.ofDigitChars 10 (ds.take k) 0 * Nat.pow 10 (k - (ds.take k).length) =
      fractionIn (Nat.pow 10 k) ds := by
  have hpos (n : Nat) : 0 < Nat.pow 10 n := Nat.pow_pos (by decide)
  have hadd (m n : Nat) : Nat.pow 10 (m + n) = Nat.pow 10 m * Nat.pow 10 n := Nat.pow_add 10 m n
  unfold fractionIn
  by_cases hk : ds.length ≤ k
  · have hpow := hadd (k - ds.length) ds.length
    rw [Nat.sub_add_cancel hk] at hpow
    rw [List.take_of_length_le hk, hpow, ← Nat.mul_assoc, Nat.mul_div_cancel _ (hpos _)]
  · have hlength : (ds.take k).length = k := List.length_take_of_le (by omega)
    have hpow := hadd k (ds.drop k).length
    rw [List.length_drop, Nat.add_sub_cancel' (by omega)] at hpow
    have hvalue : Nat.ofDigitChars 10 ds 0 = Nat.pow 10 (ds.drop k).length *
        Nat.ofDigitChars 10 (ds.take k) 0 + Nat.ofDigitChars 10 (ds.drop k) 0 := by
      rw [Nat.pow_eq, ← Nat.ofDigitChars_eq_ofDigitChars_zero, ← Nat.ofDigitChars_append,
        List.take_append_drop]
    have hdrop : Nat.ofDigitChars 10 (ds.drop k) 0 < Nat.pow 10 (ds.drop k).length :=
      Text.ofDigitChars_lt fun c hc => h c (List.mem_of_mem_drop hc)
    rw [List.length_drop] at hvalue hdrop
    rw [hlength, Nat.sub_self, Nat.pow, Nat.mul_one, hpow, Nat.mul_comm _ (Nat.pow 10 k),
      Nat.mul_div_mul_left _ _ (hpos k), hvalue, Nat.mul_add_div (hpos _),
      Nat.div_eq_of_lt hdrop, Nat.add_zero]

theorem fractionIn_div (unit : Nat) {k : Nat} (hk : 0 < k) (ds : List Char) :
    fractionIn (unit * k) ds / k = fractionIn unit ds := by
  rw [fractionIn, fractionIn, Nat.div_div_eq_div_mul, ← Nat.mul_assoc, Nat.mul_div_mul_right _ _ hk]

structure ClockText extends MinuteText where
  second : Numeral
  fraction : List Char
  second_fits : second.digits.length ≤ 2
  fraction_digit : ∀ c ∈ fraction, c.isDigit = true

namespace ClockText

def chars (k : ClockText) : List Char :=
  k.toMinuteText.chars ++ ':' :: (k.second.chars ++ fractionChars k.fraction)

def clock (k : ClockText) : Clock :=
  ⟨k.hour.value, k.minute.value, k.second.value, fractionIn 1000000000 k.fraction⟩

structure Exact (k : ClockText) : Prop where
  hour : k.hour.Exact 2
  minute : k.minute.Exact 2
  second : k.second.Exact 2

end ClockText

structure OffsetText where
  sign : Char
  hours : Numeral
  minutes : Numeral
  signed : sign = '+' ∨ sign = '-' ∨ sign = '\u2212'
  hours_exact : hours.Exact 2
  minutes_exact : minutes.Exact 2
  hours_lt : hours.value < 24
  minutes_lt : minutes.value < 60

inductive Zone where
  | letter (c : Char) (h : c = 'Z' ∨ c = 'z')
  | offset (o : OffsetText)

namespace Zone

def chars : Zone → List Char
  | .letter c _ => [c]
  | .offset o => o.sign :: (o.hours.chars ++ ':' :: o.minutes.chars)

def minutes : Zone → Int
  | .letter _ _ => 0
  | .offset o =>
      if o.sign = '+' then (o.hours.value * 60 + o.minutes.value : Nat)
      else -(o.hours.value * 60 + o.minutes.value : Nat)

end Zone

inductive Layout where
  | zoned | full | spaced | minute | midnight
deriving DecidableEq, Repr

inductive Spelling where
  | zoned (day : DayText) (separator : Char) (clock : ClockText) (zone : Zone)
  | full (day : DayText) (clock : ClockText)
  | spaced (day : DayText) (clock : ClockText)
  | minute (day : DayText) (clock : MinuteText)
  | midnight (day : DayText)

namespace Spelling

def layout : Spelling → Layout
  | .zoned _ _ _ _ => .zoned
  | .full _ _ => .full
  | .spaced _ _ => .spaced
  | .minute _ _ => .minute
  | .midnight _ => .midnight

def chars : Spelling → List Char
  | .zoned day separator clock zone => day.chars ++ separator :: (clock.chars ++ zone.chars)
  | .full day clock => day.chars ++ 'T' :: clock.chars
  | .spaced day clock => day.chars ++ clock.chars
  | .minute day clock => day.chars ++ 'T' :: clock.chars
  | .midnight day => day.chars

def Allowed : Spelling → Prop
  | .zoned day separator clock _ =>
      day.Exact ∧ clock.Exact ∧ (separator = 'T' ∨ separator = 't' ∨ separator = ' ')
  | .spaced day clock => day.day.digits.length = 2 ∨ clock.hour.blanks ≠ []
  | _ => True

def wall : Spelling → Timestamp
  | .zoned day _ clock _ => ⟨day.date, clock.clock⟩
  | .full day clock => ⟨day.date, clock.clock⟩
  | .spaced day clock => ⟨day.date, clock.clock⟩
  | .minute day clock => ⟨day.date, clock.clock⟩
  | .midnight day => ⟨day.date, Calendar.midnight⟩

def offset : Spelling → Int
  | .zoned _ _ _ zone => zone.minutes
  | _ => 0

def fraction : Spelling → List Char
  | .zoned _ _ clock _ => clock.fraction
  | .full _ clock => clock.fraction
  | .spaced _ clock => clock.fraction
  | _ => []

end Spelling

def marks (cs : List Char) : List Char := cs.filter (· ∈ [':', 'T', 'Z', 'z'])

def layoutOf (cs : List Char) : Layout :=
  match marks cs with
  | [] => .midnight
  | ['T', ':'] => .minute
  | [':', ':'] => .spaced
  | ['T', ':', ':'] => .full
  | _ => .zoned

theorem marks_append (as bs : List Char) : marks (as ++ bs) = marks as ++ marks bs :=
  List.filter_append as bs

theorem marks_of_class {p : Char → Bool} (hclass : [':', 'T', 'Z', 'z'].all (fun c => !p c) = true)
    {cs : List Char} (h : ∀ c ∈ cs, p c = true) : marks cs = [] := by
  rw [marks, List.filter_eq_nil_iff]
  intro c hc hmark
  have hnot := List.all_eq_true.mp hclass c (of_decide_eq_true hmark)
  simp [h c hc] at hnot

theorem marks_digits {ds : List Char} (h : ∀ c ∈ ds, c.isDigit = true) : marks ds = [] :=
  marks_of_class (by decide) h

theorem Numeral.marks_chars (n : Numeral) : marks n.chars = [] := by
  rw [chars, marks_append, marks_digits n.digit, List.append_nil]
  exact marks_of_class (by decide) n.blank

theorem Sign.marks_chars (s : Sign) : marks s.chars = [] := by
  cases s <;> rfl

theorem DayText.marks_chars (d : DayText) : marks d.chars = [] := by
  have hblanks : marks d.year.blanks = [] := marks_of_class (by decide) d.year.blank
  have hdash (cs : List Char) : marks ('-' :: cs) = marks cs := rfl
  rw [chars, marks_append, marks_append, marks_append, hdash, marks_append, hdash, hblanks,
    d.sign.marks_chars, marks_digits d.year.digit, d.month.marks_chars, d.day.marks_chars]
  rfl

theorem marks_colon (cs : List Char) : marks (':' :: cs) = ':' :: marks cs := rfl

theorem MinuteText.marks_chars (m : MinuteText) : marks m.chars = [':'] := by
  rw [chars, marks_append, marks_colon, m.hour.marks_chars, m.minute.marks_chars]
  rfl

theorem marks_fractionChars {ds : List Char} (h : ∀ c ∈ ds, c.isDigit = true) :
    marks (fractionChars ds) = [] := by
  cases ds with
  | nil => rfl
  | cons d ds =>
      have hpoint (cs : List Char) : marks ('.' :: cs) = marks cs := rfl
      exact (hpoint (d :: ds)).trans (marks_digits h)

theorem ClockText.marks_chars (k : ClockText) : marks k.chars = [':', ':'] := by
  rw [chars, marks_append, marks_colon, marks_append, k.toMinuteText.marks_chars,
    k.second.marks_chars, marks_fractionChars k.fraction_digit]
  rfl

theorem Zone.marks_chars (z : Zone) : ∃ c, marks z.chars = [c] := by
  cases z with
  | letter c h =>
      refine ⟨c, ?_⟩
      rcases h with rfl | rfl <;> rfl
  | offset o =>
      have hsign : marks (o.sign :: (o.hours.chars ++ ':' :: o.minutes.chars)) =
          marks (o.hours.chars ++ ':' :: o.minutes.chars) := by
        rcases o.signed with h | h | h <;> rw [h] <;> rfl
      refine ⟨':', ?_⟩
      rw [chars, hsign, marks_append, marks_colon, o.hours.marks_chars, o.minutes.marks_chars]
      rfl

theorem Spelling.layoutOf_chars {s : Spelling} (h : s.Allowed) : layoutOf s.chars = s.layout := by
  unfold layoutOf
  cases s with
  | zoned day separator clock zone =>
      obtain ⟨c, hzone⟩ := zone.marks_chars
      rw [chars, marks_append, day.marks_chars, List.nil_append, ← List.singleton_append,
        marks_append, marks_append, clock.marks_chars, hzone]
      rcases h.2.2 with rfl | rfl | rfl <;> rfl
  | full day clock =>
      rw [chars, marks_append, day.marks_chars, List.nil_append, ← List.singleton_append,
        marks_append, clock.marks_chars]
      rfl
  | spaced day clock =>
      rw [chars, marks_append, day.marks_chars, clock.marks_chars]
      rfl
  | minute day clock =>
      rw [chars, marks_append, day.marks_chars, List.nil_append, ← List.singleton_append,
        marks_append, clock.marks_chars]
      rfl
  | midnight day =>
      rw [chars, day.marks_chars]
      rfl

end Rostering.Calendar
