import Rostering.Proofs.Calendar.ReadBack
import Rostering.Roster.Catalogue

namespace Rostering.Calendar

/-- A point in time, in minutes of UTC and what has passed of the minute. The second may be 60. -/
structure Instant where
  minute : Int
  second : Nat
  milli : Nat
deriving DecidableEq, Repr

def Spelling.instant (s : Spelling) : Instant :=
  ⟨s.wall.minutes - s.offset, s.wall.clock.second, fractionIn 1000 s.fraction⟩

def Denotes (cs : List Char) (i : Instant) : Prop :=
  ∃ s : Spelling, s.Allowed ∧ s.wall.Valid ∧ s.chars = cs ∧ s.instant = i

def Timestamp.instant (t : Timestamp) : Instant :=
  ⟨t.minutes, t.clock.second, t.clock.nano / 1000000⟩

theorem Timestamp.instant_toMillis (t : Timestamp) : t.toMillis.instant = t.instant := by
  have hmillis : t.clock.nano / 1000000 * 1000000 / 1000000 = t.clock.nano / 1000000 := by omega
  simp only [instant, toMillis, Clock.toMillis, hmillis]
  rfl

theorem Timestamp.Valid.toMillis_eq_iff {t u : Timestamp} (ht : t.Valid) (hu : u.Valid) :
    t.toMillis = u.toMillis ↔ t.instant = u.instant := by
  constructor
  · intro h
    rw [← t.instant_toMillis, h, u.instant_toMillis]
  · intro h
    obtain ⟨hminutes, hsecond, hmilli⟩ := Instant.mk.inj h
    refine ht.toMillis.eq_of_minutes hu.toMillis hminutes hsecond ?_
    simp only [Timestamp.toMillis, Clock.toMillis, hmilli]

theorem Timestamp.Valid.literal_eq_iff {t u : Timestamp} (ht : t.Valid) (hu : u.Valid) :
    t.literal = u.literal ↔ t.instant = u.instant := by
  rw [← ht.toMillis_eq_iff hu]
  constructor
  · intro h
    have hread := readTimestamp_literal ht
    rw [h, readTimestamp_literal hu] at hread
    exact (Option.some.inj hread).symm
  · intro h
    rw [← toMillis_literal t, h, toMillis_literal]

theorem DayText.Exact.year_bounds {day : DayText} (h : day.Exact) :
    0 ≤ day.date.year ∧ day.date.year ≤ 9999 := by
  have hvalue : day.year.value < Nat.pow 10 4 := h.year.2 ▸ Text.ofDigitChars_lt day.year.digit
  change day.year.value < 10000 at hvalue
  simp only [date, h.sign, Sign.apply]
  omega

theorem Zone.minutes_bounds (z : Zone) : -1440 < z.minutes ∧ z.minutes < 1440 := by
  cases z with
  | letter c h => simp [minutes]
  | offset o =>
      have := o.hours_lt
      have := o.minutes_lt
      simp only [minutes]
      split
      · omega
      · omega

namespace Spelling

theorem wall_nano (s : Spelling) : s.wall.clock.nano = fractionIn 1000000000 s.fraction := by
  cases s with
  | minute | midnight => simp [wall, MinuteText.clock, Calendar.midnight, fraction, fractionIn]
  | zoned | full | spaced => rfl

theorem Gives.instant_eq {s : Spelling} {t : Timestamp} (h : s.Gives t) :
    t.instant = s.instant := by
  obtain ⟨hminutes, hsecond, hnano⟩ := Timestamp.of_mem_shift? t h.moved
  have hmilli : t.clock.nano / 1000000 = fractionIn 1000 s.fraction := by
    have hmillion : 0 < 1000000 := by decide
    rw [hnano, wall_nano]
    exact fractionIn_div 1000 hmillion s.fraction
  rw [Timestamp.instant, hminutes, hsecond, hmilli]
  rfl

theorem exists_gives {s : Spelling} (hallowed : s.Allowed) (hvalid : s.wall.Valid) :
    ∃ t, s.Gives t := by
  cases s with
  | zoned day separator clock zone =>
      obtain ⟨hlow, hhigh⟩ := hallowed.1.year_bounds
      obtain ⟨hback, hforth⟩ := zone.minutes_bounds
      obtain ⟨t, hmoved⟩ :=
        Timestamp.exists_shift? hvalid hlow hhigh (-zone.minutes) (by omega) (by omega)
      exact ⟨t, hallowed, hvalid, hmoved⟩
  | full | spaced | minute | midnight =>
      exact ⟨_, (gives_iff_of_offset rfl).mpr ⟨hallowed, hvalid, rfl⟩⟩

end Spelling

theorem exists_denotes_iff (cs : List Char) :
    (∃ i, Denotes cs i) ↔ ∃ t, readTimestamp cs = some t := by
  constructor
  · rintro ⟨_, s, hallowed, hvalid, rfl, -⟩
    obtain ⟨t, hgives⟩ := Spelling.exists_gives hallowed hvalid
    exact ⟨t, readTimestamp_eq_some_iff.mpr ⟨s, rfl, hgives⟩⟩
  · rintro ⟨t, h⟩
    obtain ⟨s, hchars, hgives⟩ := readTimestamp_eq_some_iff.mp h
    exact ⟨_, s, hgives.allowed, hgives.valid, hchars, rfl⟩

theorem denotes_iff_of_readTimestamp {cs : List Char} {t : Timestamp}
    (h : readTimestamp cs = some t) (i : Instant) : Denotes cs i ↔ i = t.instant := by
  constructor
  · rintro ⟨s, hallowed, hvalid, rfl, rfl⟩
    obtain ⟨u, hgives⟩ := Spelling.exists_gives hallowed hvalid
    have hread := readTimestamp_eq_some_iff.mpr ⟨s, rfl, hgives⟩
    obtain rfl := Option.some.inj (h.symm.trans hread)
    exact hgives.instant_eq.symm
  · rintro rfl
    obtain ⟨s, hchars, hgives⟩ := readTimestamp_eq_some_iff.mp h
    exact ⟨s, hgives.allowed, hgives.valid, hchars, hgives.instant_eq.symm⟩

theorem Timestamp.Valid.denotes_literal {t : Timestamp} (h : t.Valid) :
    Denotes t.literal.toList t.instant :=
  (denotes_iff_of_readTimestamp (readTimestamp_literal h) t.instant).mpr t.instant_toMillis.symm

end Rostering.Calendar

namespace Rostering.Roster.FieldKind

open Calendar (Date Denotes Instant)

theorem exists_normalize_iff_denotes (v : String) :
    (∃ l, FieldKind.timestamp.normalize v = some l) ↔ ∃ i, Denotes v.toList i := by
  rw [Calendar.exists_denotes_iff]
  constructor
  · rintro ⟨_, h⟩
    obtain ⟨t, ht, -⟩ := Option.map_eq_some_iff.mp h
    exact ⟨t, ht⟩
  · rintro ⟨t, ht⟩
    exact ⟨t.literal, Option.map_eq_some_iff.mpr ⟨t, ht, rfl⟩⟩

theorem normalize_timestamp_eq_iff (a b la lb : String)
    (ha : FieldKind.timestamp.normalize a = some la)
    (hb : FieldKind.timestamp.normalize b = some lb) :
    (∀ d : Date, d.Valid → d.next.dayNumber = d.dayNumber + 1) ∧
    (∀ v : String, (∃ l, FieldKind.timestamp.normalize v = some l) ↔ ∃ k, Denotes v.toList k) ∧
    ∃ i j : Instant, (∀ k, Denotes a.toList k ↔ k = i) ∧ (∀ k, Denotes b.toList k ↔ k = j) ∧
      Denotes la.toList i ∧ Denotes lb.toList j ∧ (la = lb ↔ i = j) := by
  obtain ⟨t, ht, rfl⟩ := Option.map_eq_some_iff.mp ha
  obtain ⟨u, hu, rfl⟩ := Option.map_eq_some_iff.mp hb
  have htvalid := Calendar.valid_of_mem_readTimestamp a.toList t ht
  have huvalid := Calendar.valid_of_mem_readTimestamp b.toList u hu
  exact ⟨fun _ hd => hd.dayNumber_next, exists_normalize_iff_denotes, t.instant, u.instant,
    Calendar.denotes_iff_of_readTimestamp ht, Calendar.denotes_iff_of_readTimestamp hu,
    htvalid.denotes_literal, huvalid.denotes_literal, htvalid.literal_eq_iff huvalid⟩

theorem normalize_across_year_zero :
    FieldKind.timestamp.normalize "0000-01-01t00:29:60.9999999999+00:30" =
        some "-0001-12-31T23:59:60.999" ∧
      FieldKind.timestamp.normalize "-1-12-31 23:59:60.9990" = some "-0001-12-31T23:59:60.999" ∧
      ∃ i : Instant, Denotes "0000-01-01t00:29:60.9999999999+00:30".toList i ∧
        Denotes "-1-12-31 23:59:60.9990".toList i := by
  have ha : FieldKind.timestamp.normalize "0000-01-01t00:29:60.9999999999+00:30" =
      some "-0001-12-31T23:59:60.999" := by decide
  have hb : FieldKind.timestamp.normalize "-1-12-31 23:59:60.9990" =
      some "-0001-12-31T23:59:60.999" := by decide
  obtain ⟨-, -, i, j, hi, hj, -, -, hsame⟩ := normalize_timestamp_eq_iff _ _ _ _ ha hb
  exact ⟨ha, hb, i, (hi i).mpr rfl, (hj i).mpr (hsame.mp rfl)⟩

end Rostering.Roster.FieldKind
