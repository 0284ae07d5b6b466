import Rostering.Proofs.Calendar.Formats
import Rostering.Proofs.Calendar.Shifting

namespace Rostering.Calendar

structure Spelling.Gives (s : Spelling) (t : Timestamp) : Prop where
  allowed : s.Allowed
  valid : s.wall.Valid
  moved : s.wall.shift? (-s.offset) = some t

def Layout.read : Layout → List Char → Option Timestamp
  | .zoned => readZoned
  | .full => readWith fullItems
  | .spaced => readWith spacedItems
  | .minute => readWith minuteItems
  | .midnight => readMidnight

def Layout.all : List Layout := [.zoned, .full, .spaced, .minute, .midnight]

theorem readings_eq : readings = Layout.all.map Layout.read := rfl

theorem Spelling.gives_iff_of_offset {s : Spelling} (h : s.offset = 0) {t : Timestamp} :
    s.Gives t ↔ s.Allowed ∧ s.wall.Valid ∧ s.wall = t := by
  constructor
  · rintro ⟨hallowed, hvalid, hmoved⟩
    rw [h, Int.neg_zero, hvalid.shift?_zero] at hmoved
    exact ⟨hallowed, hvalid, Option.some.inj hmoved⟩
  · rintro ⟨hallowed, hvalid, rfl⟩
    refine ⟨hallowed, hvalid, ?_⟩
    rw [h, Int.neg_zero, hvalid.shift?_zero]

theorem Spelling.chars_zoned {day : DayText} (h : day.Exact) {separator : Char}
    {clock : ClockText} {zone : Zone} : (Spelling.zoned day separator clock zone).chars =
      day.year.chars ++ '-' :: (day.month.chars ++ '-' :: (day.day.chars ++ separator ::
        (clock.hour.chars ++ ':' :: (clock.minute.chars ++ ':' :: (clock.second.chars ++
          (fractionChars clock.fraction ++ zone.chars)))))) := by
  simp only [chars, DayText.chars, ClockText.chars, MinuteText.chars, Numeral.chars, h.sign,
    h.year.1, Sign.chars, List.nil_append, List.cons_append, List.append_assoc]

theorem exists_zoned_of_readZoned {cs : List Char} {t : Timestamp} (h : readZoned cs = some t) :
    ∃ s : Spelling, s.layout = .zoned ∧ s.chars = cs ∧ s.Gives t := by
  obtain ⟨year, _, hyear, rfl, hdash⟩ := exists_numeral_of_bind (by decide) h
  obtain ⟨_, rfl, hmonths⟩ := exists_rest_of_bind hdash
  obtain ⟨month, _, hmonth, rfl, hdash'⟩ := exists_numeral_of_bind (by decide) hmonths
  obtain ⟨_, rfl, hdays⟩ := exists_rest_of_bind hdash'
  obtain ⟨day, rest, hday, rfl, hrest⟩ := exists_numeral_of_bind (by decide) hdays
  -- The character between date and time is read by cases, so the block goes on in each of them.
  dsimp only at hrest
  split at hrest
  · contradiction
  · split at hrest
    · rename_i c _ hseparator
      obtain ⟨_, htimes, hhours⟩ := Option.bind_eq_some_iff.mp hrest
      obtain rfl := Option.some.inj htimes
      obtain ⟨hour, _, hhour, rfl, hcolon⟩ := exists_numeral_of_bind (by decide) hhours
      obtain ⟨_, rfl, hminutes⟩ := exists_rest_of_bind hcolon
      obtain ⟨minute, _, hminute, rfl, hcolon'⟩ := exists_numeral_of_bind (by decide) hminutes
      obtain ⟨_, rfl, hseconds⟩ := exists_rest_of_bind hcolon'
      obtain ⟨second, _, hsecond, rfl, hfractions⟩ := exists_numeral_of_bind (by decide) hseconds
      obtain ⟨⟨nano, _⟩, hfraction, hoffsets⟩ := Option.bind_eq_some_iff.mp hfractions
      obtain ⟨_, hoffset, hdates⟩ := Option.bind_eq_some_iff.mp hoffsets
      obtain ⟨zone, rfl, rfl⟩ := readOffset_eq_some_iff.mp hoffset
      obtain ⟨date, hdate, hwalls⟩ := Option.bind_eq_some_iff.mp hdates
      obtain ⟨wall, hwall, hmoved⟩ := Option.bind_eq_some_iff.mp hwalls
      obtain ⟨ds, hdigits, rfl, rfl⟩ := exists_fraction_of_readFraction hfraction
      obtain ⟨rfl, -⟩ := Date.of?_eq_some_iff.mp hdate
      obtain ⟨hvalid, heq⟩ := Option.ite_none_right_eq_some.mp hwall
      obtain rfl := Option.some.inj heq
      refine ⟨.zoned ⟨.none, year, month, day, fun _ => hyear.2.le, hmonth.2.le, hday.2.le⟩ c
        ⟨⟨hour, minute, hhour.2.le, hminute.2.le⟩, second, ds, hsecond.2.le, hdigits⟩ zone, rfl, ?_,
        ⟨⟨rfl, hyear, hmonth, hday⟩, ⟨hhour, hminute, hsecond⟩, hseparator⟩, hvalid, hmoved⟩
      exact Spelling.chars_zoned ⟨rfl, hyear, hmonth, hday⟩
    · contradiction

theorem readZoned_chars {day : DayText} {separator : Char} {clock : ClockText} {zone : Zone}
    {t : Timestamp} (h : (Spelling.zoned day separator clock zone).Gives t) :
    readZoned (Spelling.zoned day separator clock zone).chars = some t := by
  obtain ⟨⟨hday, hclock, hseparator⟩, hvalid, hmoved⟩ := h
  rw [Spelling.chars_zoned hday, readZoned]
  refine (Text.bind_of_eq_some (hday.year.readExactly_chars _) _).trans ?_
  refine (Text.bind_of_eq_some (readMark_cons '-' _) _).trans ?_
  refine (Text.bind_of_eq_some (hday.month.readExactly_chars _) _).trans ?_
  refine (Text.bind_of_eq_some (readMark_cons '-' _) _).trans ?_
  refine (Text.bind_of_eq_some (hday.day.readExactly_chars _) _).trans ?_
  refine (if_pos hseparator).trans ?_
  refine (Text.bind_of_eq_some rfl _).trans ?_
  refine (Text.bind_of_eq_some (hclock.hour.readExactly_chars _) _).trans ?_
  refine (Text.bind_of_eq_some (readMark_cons ':' _) _).trans ?_
  refine (Text.bind_of_eq_some (hclock.minute.readExactly_chars _) _).trans ?_
  refine (Text.bind_of_eq_some (readMark_cons ':' _) _).trans ?_
  refine (Text.bind_of_eq_some (hclock.second.readExactly_chars _) _).trans ?_
  refine (Text.bind_of_eq_some (readFraction_zone clock.fraction_digit zone) _).trans ?_
  refine (Text.bind_of_eq_some (readOffset_eq_some_iff.mpr ⟨zone, rfl, rfl⟩) _).trans ?_
  have hdate : Date.of? day.year.value day.month.value day.day.value = some day.date :=
    Date.of?_eq_some_iff.mpr ⟨by rw [DayText.date, hday.sign]; rfl, hvalid.1⟩
  refine (Text.bind_of_eq_some hdate _).trans ?_
  refine (Text.bind_of_eq_some (if_pos hvalid) _).trans ?_
  exact hmoved

theorem Spelling.Gives.read_chars {s : Spelling} {t : Timestamp} (h : s.Gives t) :
    s.layout.read s.chars = some t := by
  cases s with
  | zoned day separator clock zone => exact readZoned_chars h
  | full day clock =>
      obtain ⟨-, hvalid, heq⟩ := (gives_iff_of_offset rfl).mp h
      exact (clockItems_readClock.mark 'T').readWith_eq_some_iff.mpr
        ⟨day, clock, .inr (stops_cons (by decide) _), rfl, hvalid, heq⟩
  | spaced day clock =>
      obtain ⟨hallowed, hvalid, heq⟩ := (gives_iff_of_offset rfl).mp h
      exact blanks_clockItems_readClock.readWith_eq_some_iff.mpr
        ⟨day, clock, hallowed.imp_right clock.stops_chars_iff.mpr, rfl, hvalid, heq⟩
  | minute day clock =>
      obtain ⟨-, hvalid, heq⟩ := (gives_iff_of_offset rfl).mp h
      exact (toMinuteItems_readClock.mark 'T').readWith_eq_some_iff.mpr
        ⟨day, clock, .inr (stops_cons (by decide) _), rfl, hvalid, heq⟩
  | midnight day =>
      obtain ⟨-, hvalid, heq⟩ := (gives_iff_of_offset rfl).mp h
      exact Option.map_eq_some_iff.mpr
        ⟨day.date, readDate_eq_some_iff.mpr ⟨day, rfl, hvalid.1, rfl⟩, heq⟩

theorem Layout.exists_spelling_of_read {layout : Layout} {cs : List Char} {t : Timestamp}
    (h : layout.read cs = some t) :
    ∃ s : Spelling, s.layout = layout ∧ s.chars = cs ∧ s.Gives t := by
  cases layout with
  | zoned => exact exists_zoned_of_readZoned h
  | full =>
      obtain ⟨day, clock, -, rfl, hvalid, heq⟩ :=
        (clockItems_readClock.mark 'T').readWith_eq_some_iff.mp h
      exact ⟨.full day clock, rfl, rfl,
        (Spelling.gives_iff_of_offset rfl).mpr ⟨trivial, hvalid, heq⟩⟩
  | spaced =>
      obtain ⟨day, clock, hend, rfl, hvalid, heq⟩ :=
        blanks_clockItems_readClock.readWith_eq_some_iff.mp h
      exact ⟨.spaced day clock, rfl, rfl, (Spelling.gives_iff_of_offset rfl).mpr
        ⟨hend.imp_right clock.stops_chars_iff.mp, hvalid, heq⟩⟩
  | minute =>
      obtain ⟨day, clock, -, rfl, hvalid, heq⟩ :=
        (toMinuteItems_readClock.mark 'T').readWith_eq_some_iff.mp h
      exact ⟨.minute day clock, rfl, rfl,
        (Spelling.gives_iff_of_offset rfl).mpr ⟨trivial, hvalid, heq⟩⟩
  | midnight =>
      obtain ⟨d, hdate, rfl⟩ := Option.map_eq_some_iff.mp h
      obtain ⟨day, hchars, hvalid, rfl⟩ := readDate_eq_some_iff.mp hdate
      have hclock : Calendar.midnight.Valid := by decide
      exact ⟨.midnight day, rfl, hchars,
        (Spelling.gives_iff_of_offset rfl).mpr ⟨trivial, ⟨hvalid, hclock⟩, rfl⟩⟩

theorem Layout.layoutOf_of_read {layout : Layout} {cs : List Char} {t : Timestamp}
    (h : layout.read cs = some t) : layoutOf cs = layout := by
  obtain ⟨s, rfl, rfl, hgives⟩ := exists_spelling_of_read h
  exact Spelling.layoutOf_chars hgives.allowed

theorem Layout.mem_all (layout : Layout) : layout ∈ Layout.all := by
  cases layout <;> decide

theorem findSome?_eq_of_unique {α β : Type} {f : α → Option β} {b : β} {as : List α}
    (hsome : ∃ a ∈ as, f a = some b) (hunique : ∀ a ∈ as, ∀ c ∈ f a, c = b) :
    as.findSome? f = some b := by
  induction as with
  | nil => simp at hsome
  | cons a as ih =>
      cases ha : f a with
      | some c => rw [List.findSome?_cons_of_isSome (by simp [ha]), ha, hunique a (by simp) c ha]
      | none =>
          obtain ⟨x, hx, hfx⟩ := hsome
          have hlater : x ∈ as := by
            rcases List.mem_cons.mp hx with rfl | hx
            · exact absurd (ha.symm.trans hfx) (by simp)
            · exact hx
          rw [List.findSome?_cons_of_isNone (by simp [ha])]
          exact ih ⟨x, hlater, hfx⟩ fun y hy => hunique y (List.mem_cons_of_mem a hy)

theorem eq_of_mem_readings {read read' : List Char → Option Timestamp} (h : read ∈ readings)
    (h' : read' ∈ readings) {cs : List Char} {t u : Timestamp} (hread : read cs = some t)
    (hread' : read' cs = some u) : t = u := by
  rw [readings_eq] at h h'
  obtain ⟨layout, -, rfl⟩ := List.mem_map.mp h
  obtain ⟨layout', -, rfl⟩ := List.mem_map.mp h'
  obtain rfl : layout = layout' :=
    (Layout.layoutOf_of_read hread).symm.trans (Layout.layoutOf_of_read hread')
  exact Option.some.inj (hread.symm.trans hread')

theorem findSome?_of_mem_readings {tried : List (List Char → Option Timestamp)}
    (h : ∀ read, read ∈ tried ↔ read ∈ readings) {read : List Char → Option Timestamp}
    (hmem : read ∈ readings) {cs : List Char} {t : Timestamp} (hread : read cs = some t) :
    tried.findSome? (· cs) = some t :=
  findSome?_eq_of_unique ⟨read, (h read).mpr hmem, hread⟩
    fun other hother _ hu => eq_of_mem_readings ((h other).mp hother) hmem hu hread

theorem readTimestamp_eq_some_iff {cs : List Char} {t : Timestamp} :
    readTimestamp cs = some t ↔ ∃ s : Spelling, s.chars = cs ∧ s.Gives t := by
  constructor
  · intro h
    obtain ⟨read, hmem, hread⟩ := List.exists_of_findSome?_eq_some h
    rw [readings_eq] at hmem
    obtain ⟨layout, -, rfl⟩ := List.mem_map.mp hmem
    obtain ⟨s, -, hchars, hgives⟩ := Layout.exists_spelling_of_read hread
    exact ⟨s, hchars, hgives⟩
  · rintro ⟨s, rfl, hgives⟩
    have hmem : s.layout.read ∈ readings := List.mem_map_of_mem s.layout.mem_all
    exact findSome?_of_mem_readings (fun _ => Iff.rfl) hmem hgives.read_chars

theorem readings_exclusive (cs : List Char) :
    readings.countP (fun read => (read cs).isSome) ≤ 1 ∧
      ∀ tried : List (List Char → Option Timestamp), tried.Perm readings →
        tried.findSome? (· cs) = readTimestamp cs := by
  constructor
  · have hone (layout : Layout) (h : (layout.read cs).isSome = true) :
        (layout == layoutOf cs) = true := by
      obtain ⟨t, ht⟩ := Option.isSome_iff_exists.mp h
      simp [Layout.layoutOf_of_read ht]
    have honce (layout : Layout) : Layout.all.count layout ≤ 1 := by cases layout <;> decide
    rw [readings_eq, List.countP_map]
    calc Layout.all.countP (fun layout => (layout.read cs).isSome)
        ≤ Layout.all.count (layoutOf cs) := List.countP_mono_left fun layout _ => hone layout
      _ ≤ 1 := honce (layoutOf cs)
  · intro tried hperm
    cases hread : readTimestamp cs with
    | some t =>
        obtain ⟨read, hmem, haccepts⟩ := List.exists_of_findSome?_eq_some hread
        exact findSome?_of_mem_readings (fun _ => hperm.mem_iff) hmem haccepts
    | none =>
        refine List.findSome?_eq_none_iff.mpr fun read hmem => ?_
        exact List.findSome?_eq_none_iff.mp hread read (hperm.mem_iff.mp hmem)

theorem readings_reversed :
    readings.reverse.findSome? (· "2024-9-1 \u00a0 8:30:0.5".toList) =
        readTimestamp "2024-9-1 \u00a0 8:30:0.5".toList ∧
      readTimestamp "2024-9-1 \u00a0 8:30:0.5".toList =
        some ⟨⟨2024, 9, 1⟩, ⟨8, 30, 0, 500000000⟩⟩ :=
  ⟨(readings_exclusive _).2 _ (List.reverse_perm readings), by decide⟩

theorem valid_of_mem_readDate (cs : List Char) : ∀ d ∈ readDate cs, d.Valid := by
  intro d h
  obtain ⟨day, -, hvalid, rfl⟩ := readDate_eq_some_iff.mp h
  exact hvalid

theorem valid_of_mem_readTimestamp (cs : List Char) : ∀ t ∈ readTimestamp cs, t.Valid := by
  intro t h
  obtain ⟨s, -, hgives⟩ := readTimestamp_eq_some_iff.mp h
  exact hgives.valid.of_mem_shift? t hgives.moved

end Rostering.Calendar
