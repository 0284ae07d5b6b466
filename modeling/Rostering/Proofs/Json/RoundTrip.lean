import Mathlib.Data.List.Nodup
import Rostering.Proofs.Json.Grammar

namespace Rostering

namespace Fields

theorem set_of_not_mem {name : String} (value : Json) {fields : Fields}
    (h : name ∉ fields.map (·.1)) : set name value fields = fields ++ [(name, value)] := by
  induction fields with
  | nil => rfl
  | cons field rest ih =>
      simp only [List.map_cons, List.mem_cons, not_or] at h
      have hne : ¬ field.1 = name := fun heq => h.1 heq.symm
      simp only [set, if_neg hne, ih h.2, List.cons_append]

theorem foldl_set {pairs read : Fields} (h : ((read ++ pairs).map (·.1)).Nodup) :
    pairs.foldl (fun fields pair => set pair.1 pair.2 fields) read = read ++ pairs := by
  induction pairs generalizing read with
  | nil => simp
  | cons pair pairs ih =>
      have hnew : pair.1 ∉ read.map (·.1) := by
        rw [List.map_append, List.map_cons, List.nodup_append] at h
        intro hmem
        exact h.2.2 pair.1 hmem pair.1 (by simp) rfl
      rw [List.foldl_cons, set_of_not_mem pair.2 hnew, ih (by simpa using h)]
      simp

theorem collect_of_nodup {pairs : List (String × Json)} (h : (pairs.map (·.1)).Nodup) :
    collect pairs = pairs := by
  have hread : ((([] : Fields) ++ pairs).map (·.1)).Nodup := h
  rw [collect, foldl_set hread, List.nil_append]

end Fields

namespace Json

inductive Exact : Nat → Json → Prop where
  | null (levels : Nat) : Exact levels .null
  | bool (levels : Nat) (value : Bool) : Exact levels (.bool value)
  | int (levels : Nat) {k : Int} (low : -(Text.i64Limit : Int) ≤ k) (high : k < Text.u64Limit) :
      Exact levels (.int k)
  | str (levels : Nat) (value : String) : Exact levels (.str value)
  | arr {levels : Nat} {items : List Json} (inside : ∀ item ∈ items, Exact levels item) :
      Exact (levels + 1) (.arr items)
  | obj {levels : Nat} {fields : Fields} (names : (fields.map (·.1)).Nodup)
      (inside : ∀ field ∈ fields, Exact levels field.2) : Exact (levels + 1) (.obj fields)

section Sequences

variable {Inner : List Char → Json → Prop}

theorem Item.plain {text : List Char} {json : Json} (h : Inner text json) :
    Item Inner text json := by
  simpa using Item.mk h space_nil

theorem member_chars {field : String × Json} (h : Inner field.2.chars field.2) :
    Member Inner (quoteChars field.1.toList ++ ':' :: field.2.chars) field := by
  have hname := characters_escaped field.1.toList
  have hmember := Member.mk hname space_nil space_nil (Item.plain h)
  rw [String.ofList_toList] at hmember
  simpa [quoteChars] using hmember

theorem separated_itemChars {item : Json} {items : List Json}
    (h : ∀ i ∈ item :: items, Inner i.chars i) :
    Separated (Item Inner) (itemChars (item :: items)) (item :: items) := by
  induction items generalizing item with
  | nil => exact .last (.plain (h item (by simp)))
  | cons next items ih =>
      have hothers := ih fun i hi => h i (List.mem_cons_of_mem _ hi)
      exact .more (.plain (h item (by simp))) space_nil hothers

theorem separated_fieldChars {field : String × Json} {fields : Fields}
    (h : ∀ f ∈ field :: fields, Inner f.2.chars f.2) :
    Separated (Member Inner) (fieldChars (field :: fields)) (field :: fields) := by
  induction fields generalizing field with
  | nil => exact .last (member_chars (h field (by simp)))
  | cons next fields ih =>
      have hothers := ih fun f hf => h f (List.mem_cons_of_mem _ hf)
      have hmore := Separated.more (member_chars (h field (by simp))) space_nil hothers
      rw [fieldChars]
      simpa using hmore

theorem level_arr {items : List Json} (h : ∀ item ∈ items, Inner item.chars item) :
    Level Inner (arr items).chars (.arr items) := by
  rw [chars]
  cases items with
  | nil => exact .arr (.nothing space_nil)
  | cons item items => exact .arr (.parts space_nil (separated_itemChars h))

theorem level_obj {fields : Fields} (names : (fields.map (·.1)).Nodup)
    (h : ∀ field ∈ fields, Inner field.2.chars field.2) :
    Level Inner (obj fields).chars (.obj fields) := by
  have hcollect := Fields.collect_of_nodup names
  rw [chars]
  cases fields with
  | nil => exact .obj (.nothing space_nil)
  | cons field fields =>
      have hlevel := Level.obj (.parts space_nil (separated_fieldChars h))
      rwa [hcollect] at hlevel

end Sequences

theorem Exact.spells {levels : Nat} {json : Json} (h : Exact levels json) :
    Spells levels json.chars json := by
  induction h with
  | null levels => exact SpellsScalar.null.spells levels
  | bool levels value =>
      cases value with
      | true => exact SpellsScalar.yes.spells levels
      | false => exact SpellsScalar.no.spells levels
  | int levels low high => exact (SpellsScalar.number (numberText_intDigits low high)).spells levels
  | str levels value =>
      have hstring := SpellsScalar.string (characters_escaped value.toList)
      rw [String.ofList_toList] at hstring
      exact hstring.spells levels
  | arr _ ih => exact level_arr ih
  | obj names _ ih => exact level_obj names ih

theorem Exact.documentText {json : Json} (h : Exact maxDepth json) :
    DocumentText json.chars json :=
  .mk space_nil (.plain h.spells)

end Json
end Rostering
