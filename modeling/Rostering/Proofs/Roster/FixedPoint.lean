import Rostering.Proofs.Calendar.ReadBack
import Rostering.Roster.Catalogue

namespace Rostering

namespace Text

theorem i64?_of_isDigit {c : Char} (h : c.isDigit = true) (cs : List Char) :
    i64? (c :: cs) = (natural? (c :: cs)).bind fun n =>
      if n < i64Limit then some (n : Int) else none := by
  unfold i64?
  split
  · rename_i heq
    split at heq
    · rename_i hsign
      obtain rfl := (List.cons.inj hsign).1
      exact absurd h (by decide)
    · rename_i hsign
      obtain rfl := (List.cons.inj hsign).1
      exact absurd h (by decide)
    · cases heq
      rfl

theorem i64?_digits {n : Nat} (h : n < i64Limit) : i64? (digits n) = some (n : Int) := by
  obtain ⟨c, cs, hcons⟩ := List.exists_cons_of_ne_nil (digits_ne_nil n)
  have hdigit : c.isDigit = true := List.all_eq_true.mp (digits_all_isDigit n) c (by simp [hcons])
  rw [hcons, i64?_of_isDigit hdigit, ← hcons, natural?_digits, Option.bind_some, if_pos h]

theorem i64?_minus_digits {n : Nat} (h : n ≤ i64Limit) :
    i64? ('-' :: digits n) = some (-(n : Int)) := by
  simp [i64?, natural?_digits, h]

theorem i64?_intDigits {n : Int} (hlow : -(i64Limit : Int) ≤ n) (hhigh : n < i64Limit) :
    i64? (intDigits n) = some n := by
  cases n with
  | ofNat n => exact i64?_digits (by simpa using hhigh)
  | negSucc n =>
      have hle : n + 1 ≤ i64Limit := by omega
      rw [intDigits, i64?_minus_digits hle, Int.negSucc_eq]
      rfl

theorem bounds_of_i64? {cs : List Char} {n : Int} (h : i64? cs = some n) :
    -(i64Limit : Int) ≤ n ∧ n < i64Limit := by
  obtain ⟨magnitude, -, hrange⟩ := Option.bind_eq_some_iff.mp h
  have hlimit : 0 < i64Limit := by decide
  have hsigned : magnitude ≤ i64Limit ∧ n = -magnitude ∨ magnitude < i64Limit ∧ n = magnitude := by
    split at hrange
    · exact .inr (by simpa [eq_comm] using hrange)
    · exact .inl (by simpa [eq_comm] using hrange)
    · exact .inr (by simpa [eq_comm] using hrange)
  omega

end Text

namespace Roster.FieldKind

theorem normalize_literal (kind : FieldKind) (value literal : String)
    (h : kind.normalize value = some literal) : kind.normalize literal = some literal := by
  cases kind with
  | text => rfl
  | boolean =>
      simp only [normalize] at h ⊢
      split at h
      · obtain rfl := Option.some.inj h
        decide
      · split at h
        · obtain rfl := Option.some.inj h
          decide
        · contradiction
  | integer =>
      obtain ⟨n, hread, rfl⟩ := Option.map_eq_some_iff.mp h
      obtain ⟨hlow, hhigh⟩ := Text.bounds_of_i64? hread
      rw [normalize, Text.intText, String.toList_ofList, Text.i64?_intDigits hlow hhigh]
      rfl
  | date =>
      obtain ⟨d, hread, rfl⟩ := Option.map_eq_some_iff.mp h
      have hvalid := Calendar.valid_of_mem_readDate value.toList d hread
      rw [normalize, Calendar.readDate_text hvalid, Option.map_some]
  | timestamp =>
      obtain ⟨t, hread, rfl⟩ := Option.map_eq_some_iff.mp h
      have hvalid := Calendar.valid_of_mem_readTimestamp value.toList t hread
      rw [normalize, Calendar.readTimestamp_literal hvalid, Option.map_some,
        Calendar.toMillis_literal]

theorem normalize_leap_second_past_year :
    FieldKind.timestamp.normalize "9999-12-31t23:30:60.9999999999-00:30" =
        some "+10000-01-01T00:00:60.999" ∧
      FieldKind.timestamp.normalize "+10000-01-01T00:00:60.999" =
        some "+10000-01-01T00:00:60.999" := by
  have hread : FieldKind.timestamp.normalize "9999-12-31t23:30:60.9999999999-00:30" =
      some "+10000-01-01T00:00:60.999" := by decide
  exact ⟨hread, normalize_literal .timestamp _ _ hread⟩

end Roster.FieldKind
end Rostering
