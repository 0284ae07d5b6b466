import Rostering.Proofs.Json.RoundTrip
import Rostering.Proofs.Shape.Normalizing
import Rostering.Proofs.Text.Trimming
import Rostering.Service

namespace Rostering

namespace Json

theorem opens_chars {json : Json} (h : json.isStructure = true) :
    ∃ c cs, c ∈ ['[', '\x7b'] ∧ json.chars = c :: cs := by
  rcases exists_of_isStructure h with ⟨items, rfl⟩ | ⟨fields, rfl⟩
  · exact ⟨'[', _, by decide, by rw [chars]⟩
  · exact ⟨'\x7b', _, by decide, by rw [chars]⟩

theorem trimStart_chars {json : Json} (h : json.isStructure = true) :
    Text.trimStart json.chars = json.chars := by
  rcases exists_of_isStructure h with ⟨items, rfl⟩ | ⟨fields, rfl⟩
  · rw [chars, Text.trimStart_cons_of_not_blank _ (by decide)]
  · rw [chars, Text.trimStart_cons_of_not_blank _ (by decide)]

end Json

namespace Shape

open Json (Exact maxDepth)

def spelled (blanks : List Char) (json : Json) : Json :=
  .str (String.ofList (blanks ++ json.chars))

structure Document (column : String × Json) : Prop where
  known : column.1 ∈ jsonColumns
  structured : column.2.isStructure = true
  exact : Exact maxDepth column.2

inductive SpelledColumn : String × Json → String × Json → Prop where
  | same (column : String × Json) : SpelledColumn column column
  | text {column : String × Json} (document : Document column) {blanks : List Char}
      (blank : Text.Blank blanks) : SpelledColumn column (column.1, spelled blanks column.2)

def SpelledRow : Record → Record → Prop := List.Forall₂ SpelledColumn

theorem decodeText_spelled {json : Json} (hstructure : json.isStructure = true)
    (hexact : Exact maxDepth json) {blanks : List Char} (hblanks : Text.Blank blanks) :
    decodeText (spelled blanks json) = json := by
  have htrim : Text.trimStart (String.ofList (blanks ++ json.chars)).toList = json.chars := by
    rw [String.toList_ofList, Text.trimStart_append_of_blank json.chars hblanks,
      Json.trimStart_chars hstructure]
  have hspells : SpellsStructure (String.ofList (blanks ++ json.chars)) json :=
    ⟨by rw [htrim]; exact Json.opens_chars hstructure, by rw [htrim]; exact hexact.documentText⟩
  exact hspells.decodeText_eq

theorem Document.decodeColumn {column : String × Json} (h : Document column) :
    decodeColumn column = column := by
  rw [Shape.decodeColumn, if_pos h.known, decodeText_structure h.structured]

theorem Document.decodeColumn_spelled {column : String × Json} (h : Document column)
    {blanks : List Char} (hblanks : Text.Blank blanks) :
    Shape.decodeColumn (column.1, spelled blanks column.2) = column := by
  rw [Shape.decodeColumn, if_pos h.known, decodeText_spelled h.structured h.exact hblanks]

theorem SpelledColumn.decodeColumn_eq {column text : String × Json}
    (h : SpelledColumn column text) : decodeColumn text = decodeColumn column := by
  cases h with
  | same => rfl
  | text document blank =>
      rw [document.decodeColumn_spelled blank, document.decodeColumn]

theorem SpelledRow.normalize_eq {record text : Record} (h : SpelledRow record text) :
    normalize text = normalize record := by
  induction h with
  | nil => rfl
  | cons hcolumn _ ih =>
      change decodeColumn _ :: normalize _ = decodeColumn _ :: normalize _
      rw [hcolumn.decodeColumn_eq, ih]

theorem map_normalize_eq {records texts : List Record}
    (h : List.Forall₂ SpelledRow records texts) :
    texts.map normalize = records.map normalize := by
  induction h with
  | nil => rfl
  | cons hrow _ ih => rw [List.map_cons, List.map_cons, hrow.normalize_eq, ih]

def spell (chosen : String → Bool) (blanks : String → List Char) (record : Record) : Record :=
  record.map fun column =>
    if chosen column.1 then (column.1, spelled (blanks column.1) column.2) else column

theorem spelledRow_spell {chosen : String → Bool} {blanks : String → List Char} {record : Record}
    (hblanks : ∀ name, Text.Blank (blanks name))
    (hdocuments : ∀ column ∈ record, chosen column.1 = true → Document column) :
    SpelledRow record (spell chosen blanks record) := by
  induction record with
  | nil => exact .nil
  | cons column record ih =>
      have hrest := ih fun other hother => hdocuments other (List.mem_cons_of_mem _ hother)
      refine .cons ?_ hrest
      by_cases hchosen : chosen column.1 = true
      · simp only [if_pos hchosen]
        exact .text (hdocuments column (by simp) hchosen) (hblanks column.1)
      · simp only [if_neg hchosen]
        exact .same column

theorem normalize_spell (chosen : String → Bool) (blanks : String → List Char) (record : Record)
    (hblanks : ∀ name, Text.Blank (blanks name))
    (hdocuments : ∀ column ∈ record, chosen column.1 = true → Document column) :
    normalize (spell chosen blanks record) = normalize record ∧
      (normalize (spell chosen blanks record)).map (·.1) = record.map (·.1) ∧
      ∀ column ∈ record, chosen column.1 = true →
        column ∈ normalize (spell chosen blanks record) := by
  have hsame := (spelledRow_spell hblanks hdocuments).normalize_eq
  refine ⟨hsame, ?_, ?_⟩
  · rw [hsame, normalize_columns]
  · intro column hcolumn hchosen
    rw [hsame, ← (hdocuments column hcolumn hchosen).decodeColumn]
    exact List.mem_map_of_mem hcolumn

theorem normalize_spelled_org :
    let org : Record :=
      [("sourcedId", .str "o1"),
        ("children", .arr [.obj [("href", .str "say \"hi\""), ("level", .int (-3))], .null]),
        ("metadata", .obj [])]
    let chosen := fun name => name == "children" || name == "metadata"
    let blanks := fun name => if name = "children" then ['\n', ' '] else []
    (∀ name, Text.Blank (blanks name)) ∧
      (∀ column ∈ org, chosen column.1 = true → Document column) ∧
      normalize (spell chosen blanks org) = normalize org ∧
      (normalize (spell chosen blanks org)).map (·.1) = ["sourcedId", "children", "metadata"] ∧
      ∀ column ∈ org, chosen column.1 = true → column ∈ normalize (spell chosen blanks org) := by
  intro org chosen blanks
  have hblanks : ∀ name, Text.Blank (blanks name) := by
    intro name
    by_cases hname : name = "children" <;> simp [blanks, hname, Text.Blank, Text.isBlank]
  have hchildren : Document
      ("children", .arr [.obj [("href", .str "say \"hi\""), ("level", .int (-3))], .null]) := by
    refine ⟨by decide, rfl, .arr ?_⟩
    simp only [List.mem_cons, List.not_mem_nil, or_false, forall_eq_or_imp, forall_eq]
    refine ⟨.obj (by decide) ?_, .null _⟩
    simp only [List.mem_cons, List.not_mem_nil, or_false, forall_eq_or_imp, forall_eq]
    exact ⟨.str _ _, .int _ (by decide) (by decide)⟩
  have hmetadata : Document ("metadata", .obj []) :=
    ⟨by decide, rfl, .obj (by simp) (by simp)⟩
  have hdocuments : ∀ column ∈ org, chosen column.1 = true → Document column := by
    intro column hcolumn hchosen
    simp only [org, List.mem_cons, List.not_mem_nil, or_false] at hcolumn
    obtain rfl | rfl | rfl := hcolumn
    · exact absurd hchosen (by decide)
    · exact hchildren
    · exact hmetadata
  exact ⟨hblanks, hdocuments, normalize_spell chosen blanks org hblanks hdocuments⟩

end Shape

namespace Service

open Query (Request)
open Roster (Endpoint)
open Shape (SpelledRow)
open Storage (Executor Failure Reply Statement)

inductive SameReply : Reply → Reply → Prop where
  | records {rows texts : List Record} (each : List.Forall₂ SpelledRow rows texts) :
      SameReply (.records rows) (.records texts)
  | failed (failure : Failure) : SameReply (.failed failure) (.failed failure)
  | silent : SameReply .silent .silent

variable {service : Service} {executor : Executor}

theorem execute_of_sameReply {statement : Statement}
    (h : SameReply (service.executor.run statement) (executor.run statement)) :
    { service with executor := executor }.execute statement = service.execute statement := by
  unfold execute
  generalize service.executor.run statement = reply at h
  generalize executor.run statement = reply' at h
  cases h with
  | records each => simp only [Shape.map_normalize_eq each]
  | failed failure => rfl
  | silent => rfl

theorem queryMany_of_sameReply
    (h : ∀ statement, SameReply (service.executor.run statement) (executor.run statement))
    (endpoint : Endpoint) (request : Request) :
    { service with executor := executor }.queryMany endpoint request =
      service.queryMany endpoint request := by
  unfold queryMany
  cases Sql.renderMany service.dialect service.schema endpoint request with
  | error fault => rfl
  | ok statement => exact execute_of_sameReply (h statement)

theorem queryOne_of_sameReply
    (h : ∀ statement, SameReply (service.executor.run statement) (executor.run statement))
    (endpoint : Endpoint) (id : String) :
    { service with executor := executor }.queryOne endpoint id = service.queryOne endpoint id := by
  unfold queryOne
  rw [execute_of_sameReply (h _)]

end Service
end Rostering
