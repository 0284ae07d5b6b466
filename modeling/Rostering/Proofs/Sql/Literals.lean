import Rostering.Proofs.Calendar.ReadBack
import Rostering.Sql.Select
import Rostering.Storage.Cell

namespace Rostering.Sql

open Calendar (Date Timestamp readDate readDate_text readTimestamp)
open Query (Clause)
open Roster (Catalogue FieldKind)
open Storage (Cell)

structure FilteredAs (kind : FieldKind) (cell : Cell) (reported literal : String) : Prop where
  reports : cell.json = .ok (.str reported)
  normalizes : kind.normalize reported = some literal
  binds : ∀ (catalogue : Catalogue) (field : String), field ∈ catalogue.filterable →
    catalogue.kindOf field = kind → ∃ c, Clause.check catalogue ⟨field, .eq, reported⟩ = .ok c ∧
      ∀ d, boundOf d c = .text literal

theorem filteredAs_of_normalizes {kind : FieldKind} {cell : Cell} {reported literal : String}
    (hreports : cell.json = .ok (.str reported))
    (hnormalizes : kind.normalize reported = some literal) :
    FilteredAs kind cell reported literal := by
  refine ⟨hreports, hnormalizes, fun catalogue field hfield hkind => ?_⟩
  refine ⟨⟨field, kind, .eq, literal⟩, ?_, fun _ => rfl⟩
  simp only [Clause.check, if_pos hfield, hkind, hnormalizes]

theorem reported_eq_literal_append (t : Timestamp) : t.reported = t.literal ++ "Z" := by
  rw [Timestamp.reported, Timestamp.literal, String.ofList_append]

theorem normalize_reported {t : Timestamp} (h : t.Valid) (hlow : 0 ≤ t.date.year)
    (hhigh : t.date.year ≤ 9999) : FieldKind.timestamp.normalize t.reported = some t.literal := by
  have hread : readTimestamp t.reported.toList = some t.toMillis := by
    rw [Timestamp.reported, String.toList_ofList]
    exact Calendar.readTimestamp_reported h hlow hhigh
  rw [FieldKind.normalize, hread, Option.map_some, Timestamp.literal,
    Calendar.toMillis_literalChars]
  rfl

theorem filtered_by_reported :
    (∀ t : Timestamp, t.Valid → 0 ≤ t.date.year → t.date.year ≤ 9999 →
      t.reported = t.literal ++ "Z" ∧
      FilteredAs .timestamp (.moment (some t)) t.reported t.literal ∧
      readTimestamp t.literal.toList = some t.toMillis) ∧
    (∀ d : Date, d.Valid →
      FilteredAs .date (.date (some d)) d.text d.text ∧ readDate d.text.toList = some d) := by
  constructor
  · intro t ht hlow hhigh
    refine ⟨reported_eq_literal_append t,
      filteredAs_of_normalizes rfl (normalize_reported ht hlow hhigh), ?_⟩
    rw [Timestamp.literal, String.toList_ofList]
    exact Calendar.readTimestamp_literalChars ht
  · intro d hd
    have hnormalizes : FieldKind.date.normalize d.text = some d.text := by
      rw [FieldKind.normalize, readDate_text hd, Option.map_some]
    exact ⟨filteredAs_of_normalizes rfl hnormalizes, readDate_text hd⟩

theorem filtered_by_leap_second :
    let t : Timestamp := ⟨⟨0, 2, 29⟩, ⟨23, 59, 60, 999999999⟩⟩
    let d : Date := ⟨-44, 3, 15⟩
    let far : Date := ⟨10000, 1, 1⟩
    (t.Valid ∧ t.reported = "0000-02-29T23:59:60.999Z" ∧
      FilteredAs .timestamp (.moment (some t)) t.reported "0000-02-29T23:59:60.999") ∧
    (d.Valid ∧ FilteredAs .date (.date (some d)) "-0044-03-15" "-0044-03-15") ∧
    (far.Valid ∧ FilteredAs .date (.date (some far)) "+10000-01-01" "+10000-01-01") := by
  have ht : Timestamp.Valid ⟨⟨0, 2, 29⟩, ⟨23, 59, 60, 999999999⟩⟩ := by decide
  have hd : Date.Valid ⟨-44, 3, 15⟩ := by decide
  have hfar : Date.Valid ⟨10000, 1, 1⟩ := by decide
  obtain ⟨htimes, hdays⟩ := filtered_by_reported
  exact ⟨⟨ht, by decide, (htimes _ ht (by decide) (by decide)).2.1⟩, ⟨hd, (hdays _ hd).1⟩,
    ⟨hfar, (hdays _ hfar).1⟩⟩

end Rostering.Sql
