import Rostering.Proofs.Calendar.Numerals

namespace Rostering.Calendar

theorem readItems_cons_eq_some_iff {item : Item} {items : List Item} {parts p : Parts}
    {cs : List Char} : readItems (item :: items) parts cs = some p ↔ ∃ parts' rest,
      item.read parts cs = some (parts', rest) ∧ readItems items parts' rest = some p := by
  rw [readItems]
  split
  · rename_i hread
    simp [hread]
  · rename_i parts' rest hread
    simp [hread, and_assoc]

theorem readItems_mark_eq_some_iff {c : Char} {items : List Item} {parts p : Parts}
    {cs : List Char} : readItems (.mark c :: items) parts cs = some p ↔
      ∃ rest, cs = c :: rest ∧ readItems items parts rest = some p := by
  cases cs with
  | nil => simp [readItems, Item.read]
  | cons d cs =>
      by_cases hd : d = c
      · simp [readItems, Item.read, hd]
      · simp [readItems, Item.read, hd]

def Parts.put (parts : Parts) (n : Nat) : Item → Parts
  | .month => { parts with month := n }
  | .day => { parts with day := n }
  | .hour => { parts with hour := n }
  | .minute => { parts with minute := n }
  | .second => { parts with second := n }
  | .fraction => { parts with nano := n }
  | _ => parts

def Item.TwoDigits (item : Item) : Prop := item ∈ [.month, .day, .hour, .minute, .second]

instance (item : Item) : Decidable item.TwoDigits := inferInstanceAs (Decidable (_ ∈ _))

theorem Item.TwoDigits.read_eq {item : Item} (h : item.TwoDigits) (parts : Parts)
    (cs : List Char) :
    item.read parts cs = (readTwo cs).map fun q => (parts.put q.1 item, q.2) := by
  simp only [Item.TwoDigits, List.mem_cons, List.not_mem_nil, or_false] at h
  rcases h with rfl | rfl | rfl | rfl | rfl
  all_goals rfl

theorem readItems_two_eq_some_iff {item : Item} (hitem : item.TwoDigits) {items : List Item}
    {parts p : Parts} {cs : List Char} :
    readItems (item :: items) parts cs = some p ↔ ∃ (m : Numeral) (rest : List Char),
      m.digits.length ≤ 2 ∧ (m.digits.length = 2 ∨ Stops rest) ∧ cs = m.chars ++ rest ∧
        readItems items (parts.put m.value item) rest = some p := by
  rw [readItems_cons_eq_some_iff, hitem.read_eq]
  constructor
  · rintro ⟨_, rest, hread, hrest⟩
    obtain ⟨⟨n, rest⟩, htwo, heq⟩ := Option.map_eq_some_iff.mp hread
    obtain ⟨rfl, rfl⟩ := Prod.mk.inj heq
    obtain ⟨m, hlength, hend, hcs, rfl⟩ := readTwo_eq_some_iff.mp htwo
    exact ⟨m, rest, hlength, hend, hcs, hrest⟩
  · rintro ⟨m, rest, hlength, hend, hcs, hrest⟩
    refine ⟨_, rest, ?_, hrest⟩
    rw [readTwo_eq_some_iff.mpr ⟨m, hlength, hend, hcs, rfl⟩]
    rfl

theorem readItems_two_mark_eq_some_iff {item : Item} (hitem : item.TwoDigits) {c : Char}
    (hc : c.isDigit = false) {items : List Item} {parts p : Parts} {cs : List Char} :
    readItems (item :: .mark c :: items) parts cs = some p ↔ ∃ (m : Numeral) (rest : List Char),
      m.digits.length ≤ 2 ∧ cs = m.chars ++ c :: rest ∧
        readItems items (parts.put m.value item) rest = some p := by
  rw [readItems_two_eq_some_iff hitem]
  constructor
  · rintro ⟨m, _, hlength, -, rfl, hread⟩
    obtain ⟨rest, rfl, hrest⟩ := readItems_mark_eq_some_iff.mp hread
    exact ⟨m, rest, hlength, rfl, hrest⟩
  · rintro ⟨m, rest, hlength, rfl, hrest⟩
    exact ⟨m, c :: rest, hlength, .inr (stops_cons hc rest), rfl,
      readItems_mark_eq_some_iff.mpr ⟨rest, rfl, hrest⟩⟩

def Timestamp.parts (t : Timestamp) : Parts :=
  ⟨t.date.year, t.date.month, t.date.day, t.clock.hour, t.clock.minute, t.clock.second,
    t.clock.nano⟩

theorem Parts.timestamp?_eq_some_iff {t u : Timestamp} :
    u.parts.timestamp? = some t ↔ u.Valid ∧ u = t := by
  rw [Parts.timestamp?, Option.bind_eq_bind, Option.bind_eq_some_iff]
  constructor
  · rintro ⟨d, hdate, hclock⟩
    obtain ⟨rfl, -⟩ := Date.of?_eq_some_iff.mp hdate
    obtain ⟨hvalid, heq⟩ := Option.ite_none_right_eq_some.mp hclock
    exact ⟨hvalid, Option.some.inj heq⟩
  · rintro ⟨hvalid, rfl⟩
    exact ⟨u.date, Date.of?_eq_some_iff.mpr ⟨rfl, hvalid.1⟩, if_pos hvalid⟩

theorem readItems_year_eq_some_iff {items : List Item} {p : Parts} {cs : List Char} :
    readItems (dateItems ++ items) Parts.start cs = some p ↔
      ∃ (sign : Sign) (m : Numeral) (rest : List Char), (sign = .none → m.digits.length ≤ 4) ∧
        cs = m.blanks ++ (sign.chars ++ (m.digits ++ '-' :: rest)) ∧
          readItems (.month :: .mark '-' :: .day :: items)
            { Parts.start with year := sign.apply m.value } rest = some p := by
  rw [dateItems, List.cons_append, readItems_cons_eq_some_iff]
  constructor
  · rintro ⟨_, _, hitem, hmark⟩
    obtain ⟨⟨n, _⟩, hyear, heq⟩ := Option.map_eq_some_iff.mp hitem
    obtain ⟨rfl, rfl⟩ := Prod.mk.inj heq
    obtain ⟨sign, m, hfits, rfl, rfl⟩ := exists_numeral_of_readYear hyear
    obtain ⟨rest, rfl, hmonths⟩ := readItems_mark_eq_some_iff.mp hmark
    exact ⟨sign, m, rest, hfits, rfl, hmonths⟩
  · rintro ⟨sign, m, rest, hfits, rfl, hmonths⟩
    refine ⟨_, '-' :: rest, ?_, readItems_mark_eq_some_iff.mpr ⟨rest, rfl, hmonths⟩⟩
    rw [Item.read, readYear_chars hfits (stops_cons (by decide) rest)]
    rfl

theorem readItems_dateItems_eq_some_iff {items : List Item} {p : Parts} {cs : List Char} :
    readItems (dateItems ++ items) Parts.start cs = some p ↔ ∃ (day : DayText) (rest : List Char),
      (day.day.digits.length = 2 ∨ Stops rest) ∧ cs = day.chars ++ rest ∧
        readItems items (Timestamp.parts ⟨day.date, midnight⟩) rest = some p := by
  rw [readItems_year_eq_some_iff]
  constructor
  · rintro ⟨sign, y, _, hfits, rfl, hmonths⟩
    obtain ⟨m, _, hmonth, rfl, hdays⟩ :=
      (readItems_two_mark_eq_some_iff (by decide) (by decide)).mp hmonths
    obtain ⟨d, rest, hday, hend, rfl, hread⟩ := (readItems_two_eq_some_iff (by decide)).mp hdays
    exact ⟨⟨sign, y, m, d, hfits, hmonth, hday⟩, rest, hend, by simp [DayText.chars], hread⟩
  · rintro ⟨day, rest, hend, rfl, hread⟩
    refine ⟨day.sign, day.year, day.month.chars ++ '-' :: (day.day.chars ++ rest), day.year_fits,
      by simp [DayText.chars], ?_⟩
    refine (readItems_two_mark_eq_some_iff (by decide) (by decide)).mpr
      ⟨day.month, _, day.month_fits, rfl, ?_⟩
    exact (readItems_two_eq_some_iff (by decide)).mpr
      ⟨day.day, rest, day.day_fits, hend, rfl, hread⟩

theorem readItems_nil_eq_some_iff {parts p : Parts} {cs : List Char} :
    readItems [] parts cs = some p ↔ cs = [] ∧ parts = p := by
  simp [readItems]

def clockItems : List Item := [.hour, .mark ':', .minute, .mark ':', .second, .fraction]

def toMinuteItems : List Item := [.hour, .mark ':', .minute]

def ReadClock {α : Type} (items : List Item) (chars : α → List Char) (clock : α → Clock) : Prop :=
  ∀ (d : Date) (cs : List Char) (p : Parts),
    readItems items (Timestamp.parts ⟨d, midnight⟩) cs = some p ↔
      ∃ k, cs = chars k ∧ p = Timestamp.parts ⟨d, clock k⟩

theorem toMinuteItems_readClock : ReadClock toMinuteItems MinuteText.chars MinuteText.clock := by
  intro d cs p
  rw [toMinuteItems, readItems_two_mark_eq_some_iff (by decide) (by decide)]
  constructor
  · rintro ⟨h, _, hhour, rfl, hminutes⟩
    obtain ⟨m, rest, hminute, -, rfl, hread⟩ :=
      (readItems_two_eq_some_iff (by decide)).mp hminutes
    obtain ⟨rfl, rfl⟩ := readItems_nil_eq_some_iff.mp hread
    exact ⟨⟨h, m, hhour, hminute⟩, by simp [MinuteText.chars], rfl⟩
  · rintro ⟨k, rfl, rfl⟩
    refine ⟨k.hour, k.minute.chars, k.hour_fits, rfl, ?_⟩
    exact (readItems_two_eq_some_iff (by decide)).mpr ⟨k.minute, [], k.minute_fits,
      .inr stops_nil, (List.append_nil _).symm, rfl⟩

theorem Item.read_fraction {parts : Parts} (h : parts.nano = 0) (cs : List Char) :
    Item.fraction.read parts cs = (readFraction cs).map fun q => (parts.put q.1 .fraction, q.2) := by
  have hsame : parts.put 0 .fraction = parts := by
    rw [← h]
    rfl
  simp only [Item.read, readFraction]
  split
  · rfl
  · rw [Option.map_some, hsame]

theorem readItems_fraction_eq_some_iff {parts p : Parts} (h : parts.nano = 0) {cs : List Char} :
    readItems [.fraction] parts cs = some p ↔ ∃ ds, (∀ c ∈ ds, c.isDigit = true) ∧
      cs = fractionChars ds ∧ p = parts.put (fractionIn 1000000000 ds) .fraction := by
  rw [readItems_cons_eq_some_iff, Item.read_fraction h]
  constructor
  · rintro ⟨_, _, hmap, hend⟩
    obtain ⟨rfl, rfl⟩ := readItems_nil_eq_some_iff.mp hend
    obtain ⟨⟨n, rest⟩, hread, heq⟩ := Option.map_eq_some_iff.mp hmap
    obtain ⟨rfl, rfl⟩ := Prod.mk.inj heq
    obtain ⟨ds, hdigits, hcs, rfl⟩ := exists_fraction_of_readFraction hread
    exact ⟨ds, hdigits, by rw [hcs, List.append_nil], rfl⟩
  · rintro ⟨ds, hdigits, rfl, rfl⟩
    have hread := readFraction_append hdigits stops_nil (by simp)
    rw [List.append_nil] at hread
    exact ⟨_, [], by rw [hread, Option.map_some], readItems_nil_eq_some_iff.mpr ⟨rfl, rfl⟩⟩

theorem clockItems_readClock : ReadClock clockItems ClockText.chars ClockText.clock := by
  intro d cs p
  rw [clockItems, readItems_two_mark_eq_some_iff (by decide) (by decide)]
  constructor
  · rintro ⟨h, _, hhour, rfl, hminutes⟩
    obtain ⟨m, _, hminute, rfl, hseconds⟩ :=
      (readItems_two_mark_eq_some_iff (by decide) (by decide)).mp hminutes
    obtain ⟨s, _, hsecond, -, rfl, hfraction⟩ :=
      (readItems_two_eq_some_iff (by decide)).mp hseconds
    obtain ⟨ds, hdigits, rfl, rfl⟩ := (readItems_fraction_eq_some_iff rfl).mp hfraction
    exact ⟨⟨⟨h, m, hhour, hminute⟩, s, ds, hsecond, hdigits⟩,
      by simp [ClockText.chars, MinuteText.chars], rfl⟩
  · rintro ⟨k, rfl, rfl⟩
    refine ⟨k.hour, k.minute.chars ++ ':' :: (k.second.chars ++ fractionChars k.fraction),
      k.hour_fits, by simp [ClockText.chars, MinuteText.chars], ?_⟩
    refine (readItems_two_mark_eq_some_iff (by decide) (by decide)).mpr
      ⟨k.minute, _, k.minute_fits, rfl, ?_⟩
    have hstops : Stops (fractionChars k.fraction) := by
      cases k.fraction with
      | nil => exact stops_nil
      | cons d ds => exact stops_cons (by decide) _
    refine (readItems_two_eq_some_iff (by decide)).mpr
      ⟨k.second, _, k.second_fits, .inr hstops, rfl, ?_⟩
    exact (readItems_fraction_eq_some_iff rfl).mpr ⟨k.fraction, k.fraction_digit, rfl, rfl⟩

-- Blanks in front of the hour are the hour's own, so a run of them may as well be empty.
theorem blanks_clockItems_readClock :
    ReadClock (.blanks :: clockItems) ClockText.chars ClockText.clock := by
  intro d cs p
  have htrim : Text.trimStart (Text.trimStart cs) = Text.trimStart cs :=
    Text.trimStart_eq_self fun _ => Text.head?_trimStart
  have hread (parts : Parts) :
      readItems (.blanks :: clockItems) parts cs = readItems clockItems parts cs := by
    simp only [clockItems, readItems, Item.read, readTwo, htrim]
  rw [hread]
  exact clockItems_readClock d cs p

section

variable {α : Type} {items : List Item} {chars : α → List Char} {clock : α → Clock}
  (h : ReadClock items chars clock)

include h

theorem ReadClock.mark (c : Char) :
    ReadClock (.mark c :: items) (fun k => c :: chars k) clock := by
  intro d cs p
  rw [readItems_mark_eq_some_iff]
  constructor
  · rintro ⟨rest, rfl, hread⟩
    obtain ⟨k, rfl, hp⟩ := (h d _ p).mp hread
    exact ⟨k, rfl, hp⟩
  · rintro ⟨k, rfl, hp⟩
    exact ⟨chars k, rfl, (h d _ p).mpr ⟨k, rfl, hp⟩⟩

theorem ReadClock.readWith_eq_some_iff {cs : List Char} {t : Timestamp} :
    readWith (dateItems ++ items) cs = some t ↔ ∃ (day : DayText) (k : α),
      (day.day.digits.length = 2 ∨ Stops (chars k)) ∧ cs = day.chars ++ chars k ∧
        Timestamp.Valid ⟨day.date, clock k⟩ ∧ ⟨day.date, clock k⟩ = t := by
  rw [readWith, Option.bind_eq_bind, Option.bind_eq_some_iff]
  constructor
  · rintro ⟨p, hread, hvalid⟩
    obtain ⟨day, _, hend, rfl, hclock⟩ := readItems_dateItems_eq_some_iff.mp hread
    obtain ⟨k, rfl, rfl⟩ := (h _ _ _).mp hclock
    exact ⟨day, k, hend, rfl, Parts.timestamp?_eq_some_iff.mp hvalid⟩
  · rintro ⟨day, k, hend, rfl, hvalid⟩
    exact ⟨_, readItems_dateItems_eq_some_iff.mpr ⟨day, _, hend, rfl, (h _ _ _).mpr ⟨k, rfl, rfl⟩⟩,
      Parts.timestamp?_eq_some_iff.mpr hvalid⟩

end

theorem ClockText.stops_chars_iff (k : ClockText) : Stops k.chars ↔ k.hour.blanks ≠ [] := by
  rw [chars, MinuteText.chars, List.append_assoc]
  exact k.hour.stops_append_iff _

theorem readDate_eq_some_iff {cs : List Char} {d : Date} :
    readDate cs = some d ↔ ∃ day : DayText, day.chars = cs ∧ day.date.Valid ∧ day.date = d := by
  rw [readDate, Option.bind_eq_bind, Option.bind_eq_some_iff, ← List.append_nil dateItems]
  constructor
  · rintro ⟨p, hread, hvalid⟩
    obtain ⟨day, rest, -, rfl, hend⟩ := readItems_dateItems_eq_some_iff.mp hread
    obtain ⟨rfl, rfl⟩ := readItems_nil_eq_some_iff.mp hend
    obtain ⟨rfl, hvalid⟩ := Date.of?_eq_some_iff.mp hvalid
    exact ⟨day, (List.append_nil _).symm, hvalid, rfl⟩
  · rintro ⟨day, rfl, hvalid, rfl⟩
    exact ⟨_, readItems_dateItems_eq_some_iff.mpr ⟨day, [], .inr stops_nil,
      (List.append_nil _).symm, readItems_nil_eq_some_iff.mpr ⟨rfl, rfl⟩⟩,
      Date.of?_eq_some_iff.mpr ⟨rfl, hvalid⟩⟩

end Rostering.Calendar
