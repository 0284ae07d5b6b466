import Rostering.Api.Problem
import Rostering.Proofs.Calendar.ReadBack
import Rostering.Proofs.Query.Refusals

namespace Rostering.Calendar

open Text (padded)

def Fits (template cs : List Char) : Prop :=
  List.Forall₂ (fun mark c => if mark = '0' then c.isDigit = true else c = mark) template cs

instance (template cs : List Char) : Decidable (Fits template cs) :=
  inferInstanceAs (Decidable (List.Forall₂ _ _ _))

def IsDateLiteral (cs : List Char) : Prop := Fits "0000-00-00".toList cs

def IsTimestampLiteral (cs : List Char) : Prop :=
  Fits "0000-00-00T00:00:00.000".toList cs ∧ Nat.ofDigitChars 10 ((cs.drop 17).take 2) 0 ≤ 59

instance (cs : List Char) : Decidable (IsDateLiteral cs) := inferInstanceAs (Decidable (Fits _ _))

instance (cs : List Char) : Decidable (IsTimestampLiteral cs) :=
  inferInstanceAs (Decidable (_ ∧ _))

theorem Fits.append {s t as bs : List Char} (ha : Fits s as) (hb : Fits t bs) :
    Fits (s ++ t) (as ++ bs) := List.rel_append ha hb

theorem Fits.mark {c : Char} (h : c ≠ '0') {t cs : List Char} (hrest : Fits t cs) :
    Fits (c :: t) (c :: cs) := .cons (by simp [h]) hrest

theorem fits_padded {width n : Nat} (hwidth : 0 < width) (h : n < Nat.pow 10 width) :
    Fits (List.replicate width '0') (padded width n) := by
  rw [Fits, List.forall₂_iff_get]
  refine ⟨by rw [List.length_replicate, Text.length_padded hwidth h], fun i _ hi => ?_⟩
  rw [List.get_eq_getElem, List.getElem_replicate, if_pos rfl]
  exact Text.mem_padded_isDigit (List.get_mem _ _)

theorem fits_yearChars {year : Int} (hlow : 0 ≤ year) (hhigh : year ≤ 9999) :
    Fits "0000".toList (yearChars year) := by
  have hyear : year.toNat < Nat.pow 10 4 := by
    change year.toNat < 10000
    omega
  rw [yearChars, if_pos ⟨hlow, hhigh⟩]
  exact fits_padded (by decide) hyear

theorem not_fits_of_sign {sign : Char} (h : sign.isDigit = false) (template cs : List Char) :
    ¬ Fits ('0' :: template) (sign :: cs) := by
  intro hfits
  have hdigit := (List.forall₂_cons.mp hfits).1
  rw [if_pos rfl, h] at hdigit
  contradiction

theorem not_fits_of_year {year : Int} (h : ¬ (0 ≤ year ∧ year ≤ 9999)) (template cs : List Char) :
    ¬ Fits ('0' :: template) (yearChars year ++ cs) := by
  -- Such a year is written with a sign, where the template has its first digit.
  rw [yearChars, if_neg h, List.cons_append]
  split
  · exact not_fits_of_sign (by decide) _ _
  · exact not_fits_of_sign (by decide) _ _

theorem fits_two {n : Nat} (h : n < 100) : Fits "00".toList (padded 2 n) :=
  fits_padded (by decide : 0 < 2) h

theorem isDateLiteral_chars {d : Date} (h : d.Valid) :
    IsDateLiteral d.chars ↔ 0 ≤ d.year ∧ d.year ≤ 9999 := by
  constructor
  · intro hfits
    by_contra hyear
    exact not_fits_of_year hyear _ _ hfits
  · rintro ⟨hlow, hhigh⟩
    have hmonth := fits_two h.month_lt
    have hday := fits_two h.day_lt_hundred
    exact (fits_yearChars hlow hhigh).append
      (.mark (by decide) (hmonth.append (.mark (by decide) hday)))

theorem fits_clock {c : Clock} (h : c.Valid) : Fits "00:00:00.000".toList c.chars := by
  obtain ⟨hhour, hminute, hsecond, hnano⟩ := h
  have hmillis : c.nano / 1000000 < Nat.pow 10 3 := by
    change c.nano / 1000000 < 1000
    omega
  have hfraction : Fits "000".toList (padded 3 (c.nano / 1000000)) :=
    fits_padded (by decide) hmillis
  exact (fits_two (by omega)).append (.mark (by decide) ((fits_two (by omega)).append
    (.mark (by decide) ((fits_two (by omega)).append (.mark (by decide) hfraction)))))

theorem second_of_literalChars {t : Timestamp} (h : t.clock.Valid)
    (hdate : IsDateLiteral t.date.chars) :
    (t.literalChars.drop 17).take 2 = padded 2 t.clock.second := by
  obtain ⟨hhour, hminute, hsecond, -⟩ := h
  have htwo {n : Nat} (hn : n < 100) : (padded 2 n).length = 2 :=
    Text.length_padded (by decide) hn
  have hten : t.date.chars.length = 10 := hdate.length_eq.symm
  -- In front of the second stand ten characters of the date and seven more of the time.
  have hsplit : t.literalChars =
      (t.date.chars ++ 'T' :: (padded 2 t.clock.hour ++ ':' :: (padded 2 t.clock.minute ++ [':']))) ++
        (padded 2 t.clock.second ++ '.' :: padded 3 (t.clock.nano / 1000000)) := by
    simp [Timestamp.literalChars, Clock.chars]
  rw [hsplit, List.drop_left', List.take_left' (htwo (by omega))]
  simp [hten, htwo (n := t.clock.hour) (by omega), htwo (n := t.clock.minute) (by omega)]

theorem isTimestampLiteral_literalChars {t : Timestamp} (h : t.Valid) :
    IsTimestampLiteral t.literalChars ↔
      (0 ≤ t.date.year ∧ t.date.year ≤ 9999) ∧ t.clock.second ≤ 59 := by
  by_cases hyear : 0 ≤ t.date.year ∧ t.date.year ≤ 9999
  · have hdate := (isDateLiteral_chars h.1).mpr hyear
    have hfits : Fits "0000-00-00T00:00:00.000".toList t.literalChars :=
      hdate.append (.mark (by decide) (fits_clock h.2))
    rw [IsTimestampLiteral, second_of_literalChars h.2 hdate, Text.ofDigitChars_padded]
    tauto
  · have hnot : ¬ Fits "0000-00-00T00:00:00.000".toList t.literalChars := by
      rw [Timestamp.literalChars, Date.chars, List.append_assoc]
      exact not_fits_of_year hyear _ _
    unfold IsTimestampLiteral
    tauto

end Rostering.Calendar

namespace Rostering.Roster.FieldKind

open Calendar (Date IsDateLiteral IsTimestampLiteral Timestamp readDate readTimestamp)
open Query (Clause Operator)

theorem normalize_width (value : String) :
    (∀ literal, FieldKind.date.normalize value = some literal →
      ∃ d : Date, readDate value.toList = some d ∧ d.Valid ∧ literal = d.text ∧
        (IsDateLiteral literal.toList ↔ 0 ≤ d.year ∧ d.year ≤ 9999)) ∧
    (∀ literal, FieldKind.timestamp.normalize value = some literal →
      ∃ t : Timestamp, readTimestamp value.toList = some t ∧ t.Valid ∧ literal = t.literal ∧
        (IsTimestampLiteral literal.toList ↔
          (0 ≤ t.date.year ∧ t.date.year ≤ 9999) ∧ t.clock.second ≤ 59)) ∧
    ∀ (catalogue : Catalogue) (field : String) (op : Operator), field ∈ catalogue.filterable →
      op ≠ .contains → (catalogue.kindOf field).normalize value = none →
      ∃ fault, Clause.check catalogue ⟨field, op, value⟩ = .error fault ∧
        fault = .filterValue field value (catalogue.kindOf field) ∧
        (Api.Problem.ofFault fault).status = 400 := by
  refine ⟨?_, ?_, ?_⟩
  · intro literal h
    obtain ⟨d, hread, rfl⟩ := Option.map_eq_some_iff.mp h
    have hvalid := Calendar.valid_of_mem_readDate _ d hread
    refine ⟨d, hread, hvalid, rfl, ?_⟩
    rw [Date.text, String.toList_ofList]
    exact Calendar.isDateLiteral_chars hvalid
  · intro literal h
    obtain ⟨t, hread, rfl⟩ := Option.map_eq_some_iff.mp h
    have hvalid := Calendar.valid_of_mem_readTimestamp _ t hread
    refine ⟨t, hread, hvalid, rfl, ?_⟩
    rw [Timestamp.literal, String.toList_ofList]
    exact Calendar.isTimestampLiteral_literalChars hvalid
  · intro catalogue field op hfield hop hnone
    have hunfit : Clause.Unfit catalogue ⟨field, op, value⟩ := .inr ⟨hop, hnone⟩
    have hcheck := Clause.check_of_unfit hunfit
    rw [Clause.faultIn, if_pos hfield] at hcheck
    exact ⟨_, hcheck, rfl, rfl⟩

theorem normalize_out_of_width :
    FieldKind.date.normalize "-0001-01-01" = some "-0001-01-01" ∧
      ¬ IsDateLiteral "-0001-01-01".toList ∧
    FieldKind.timestamp.normalize "2016-12-31T23:59:60Z" = some "2016-12-31T23:59:60.000" ∧
      ¬ IsTimestampLiteral "2016-12-31T23:59:60.000".toList := by
  decide

end Rostering.Roster.FieldKind
