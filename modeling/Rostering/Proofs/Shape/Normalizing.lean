import Mathlib.Data.List.Forall2
import Rostering.Proofs.Json.Grammar
import Rostering.Service

namespace Rostering

namespace Json

theorem exists_of_isStructure {json : Json} (h : json.isStructure = true) :
    (∃ items, json = .arr items) ∨ ∃ fields, json = .obj fields := by
  cases json with
  | arr items => exact .inl ⟨items, rfl⟩
  | obj fields => exact .inr ⟨fields, rfl⟩
  | null | bool | int | double | str => exact absurd h (by simp [isStructure])

theorem DocumentText.isStructure {c : Char} {cs : List Char} {json : Json}
    (h : DocumentText (c :: cs) json) (hc : c ∈ ['[', '\x7b']) : json.isStructure = true := by
  generalize htext : c :: cs = text at h
  obtain @⟨blanks, _, _, space, @⟨body, after, _, hbody, -⟩⟩ := h
  have hblanks : blanks = [] := by
    by_contra hne
    obtain ⟨d, ds, rfl⟩ := List.exists_cons_of_ne_nil hne
    obtain ⟨rfl, -⟩ := List.cons.inj htext
    have hspace := space c (by simp)
    have hnone : ∀ b ∈ ['[', '\x7b'], isSpace b = false := by simp [isSpace]
    rw [hnone c hc] at hspace
    contradiction
  subst hblanks
  cases hbody with
  | arr _ => rfl
  | obj _ => rfl
  | scalar hscalar =>
      obtain ⟨d, ds, rfl, -, hd⟩ := hscalar.opens
      obtain ⟨rfl, -⟩ := List.cons.inj htext
      exact absurd (List.mem_cons_of_mem ']' hc) hd

end Json

namespace Shape

open Json (DocumentText)

structure SpellsStructure (text : String) (json : Json) : Prop where
  opens : ∃ c cs, c ∈ ['[', '\x7b'] ∧ Text.trimStart text.toList = c :: cs
  document : DocumentText (Text.trimStart text.toList) json

theorem SpellsStructure.isStructure {text : String} {json : Json}
    (h : SpellsStructure text json) : json.isStructure = true := by
  obtain ⟨c, cs, hc, htrim⟩ := h.opens
  exact (htrim ▸ h.document).isStructure hc

theorem opensStructure_iff {cs : List Char} :
    opensStructure cs = true ↔ ∃ c rest, c ∈ ['[', '\x7b'] ∧ cs = c :: rest := by
  constructor
  · intro h
    unfold opensStructure at h
    split at h
    next rest => exact ⟨'\x7b', rest, by decide, rfl⟩
    next rest => exact ⟨'[', rest, by decide, rfl⟩
    next => contradiction
  · rintro ⟨c, rest, hc, rfl⟩
    simp only [List.mem_cons, List.not_mem_nil, or_false] at hc
    rcases hc with rfl | rfl <;> rfl

theorem SpellsStructure.decodeText_eq {text : String} {json : Json}
    (h : SpellsStructure text json) : decodeText (.str text) = json := by
  have hopens := opensStructure_iff.mpr h.opens
  simp only [decodeText, if_pos hopens, h.document.parseChars, Option.getD_some]

theorem decodeText_of_not_spells {text : String} (h : ∀ json, ¬ SpellsStructure text json) :
    decodeText (.str text) = .str text := by
  simp only [decodeText]
  split
  next hopens =>
    cases hparse : Json.parseChars (Text.trimStart text.toList) with
    | none => rfl
    | some json =>
        have hdocument := Json.parseChars_eq_some_iff.mp hparse
        exact absurd ⟨opensStructure_iff.mp hopens, hdocument⟩ (h json)
  next => rfl

theorem decodeText_of_not_text {json : Json} (h : ∀ text, json ≠ .str text) :
    decodeText json = json := by
  unfold decodeText
  split
  next text => exact absurd rfl (h text)
  next => rfl

theorem decodeText_structure {json : Json} (h : json.isStructure = true) :
    decodeText json = json := by
  refine decodeText_of_not_text ?_
  rintro text rfl
  contradiction

theorem decodeText_decodeText (json : Json) : decodeText (decodeText json) = decodeText json := by
  by_cases htext : ∃ text, json = .str text
  · obtain ⟨text, rfl⟩ := htext
    by_cases hspells : ∃ json, SpellsStructure text json
    · obtain ⟨json, hjson⟩ := hspells
      rw [hjson.decodeText_eq, decodeText_structure hjson.isStructure]
    · rw [decodeText_of_not_spells (not_exists.mp hspells),
        decodeText_of_not_spells (not_exists.mp hspells)]
  · rw [decodeText_of_not_text (not_exists.mp htext), decodeText_of_not_text (not_exists.mp htext)]

inductive Normalized : String × Json → String × Json → Prop where
  | decoded {name text : String} {json : Json} (known : name ∈ jsonColumns)
      (spelled : SpellsStructure text json) (structured : json.isStructure = true) :
      Normalized (name, .str text) (name, json)
  | kept {column : String × Json} (h : column.1 ∈ jsonColumns → ∀ text, column.2 = .str text →
      ∀ json, ¬ SpellsStructure text json) : Normalized column column

theorem decodeColumn_known {name : String} (h : name ∈ jsonColumns) (value : Json) :
    decodeColumn (name, value) = (name, decodeText value) := if_pos h

theorem decodeColumn_other {name : String} (h : name ∉ jsonColumns) (value : Json) :
    decodeColumn (name, value) = (name, value) := if_neg h

theorem normalized_decodeColumn (column : String × Json) :
    Normalized column (decodeColumn column) := by
  obtain ⟨name, value⟩ := column
  by_cases hknown : name ∈ jsonColumns
  · rw [decodeColumn_known hknown]
    by_cases htext : ∃ text, value = .str text
    · obtain ⟨text, rfl⟩ := htext
      by_cases hspells : ∃ json, SpellsStructure text json
      · obtain ⟨json, hjson⟩ := hspells
        rw [hjson.decodeText_eq]
        exact .decoded hknown hjson hjson.isStructure
      · rw [decodeText_of_not_spells (not_exists.mp hspells)]
        refine .kept ?_
        rintro - text ⟨⟩
        exact not_exists.mp hspells
    · rw [decodeText_of_not_text (not_exists.mp htext)]
      exact .kept fun _ text hvalue => absurd ⟨text, hvalue⟩ htext
  · rw [decodeColumn_other hknown]
    exact .kept fun hcolumn => absurd hcolumn hknown

theorem decodeColumn_decodeColumn (column : String × Json) :
    decodeColumn (decodeColumn column) = decodeColumn column := by
  obtain ⟨name, value⟩ := column
  by_cases hknown : name ∈ jsonColumns
  · rw [decodeColumn_known hknown, decodeColumn_known hknown, decodeText_decodeText]
  · rw [decodeColumn_other hknown, decodeColumn_other hknown]

theorem normalize_once (record : Record) :
    (normalize record).map (·.1) = record.map (·.1) ∧
      List.Forall₂ Normalized record (normalize record) ∧
      normalize (normalize record) = normalize record := by
  refine ⟨normalize_columns record, ?_, ?_⟩
  · rw [normalize, List.forall₂_map_right_iff, List.forall₂_same]
    exact fun column _ => normalized_decodeColumn column
  · rw [normalize, normalize, List.map_map]
    exact List.map_congr_left fun column _ => decodeColumn_decodeColumn column

end Shape
end Rostering
