import Rostering.Proofs.Json.RoundTrip
import Rostering.Proofs.Query.Refusals
import Rostering.Storage.Wire

namespace Rostering.Storage

def Decodes (cell : String × Cell) (column : String × Json) : Prop :=
  column.1 = cell.1 ∧ cell.2.json = .ok column.2

theorem names_of_decodes {row : Row} {record : Record} (h : List.Forall₂ Decodes row record) :
    record.map (·.1) = row.map (·.1) := by
  induction h with
  | nil => rfl
  | cons hcell _ ih => rw [List.map_cons, List.map_cons, hcell.1, ih]

theorem readCells_eq_ok_iff {record result : Record} {index : Nat} {row : Row}
    (h : (record.map (·.1) ++ row.map (·.1)).Nodup) :
    readCells record index row = .ok result ↔
      ∃ columns, List.Forall₂ Decodes row columns ∧ result = record ++ columns := by
  -- The names in the record and those still to be read stay apart from each other.
  induction row generalizing record index with
  | nil => simp [readCells, eq_comm]
  | cons head row ih =>
      obtain ⟨name, cell⟩ := head
      cases hcell : cell.json with
      | error fault => simp [readCells, Decodes, List.forall₂_cons_left_iff, hcell]
      | ok value =>
          have hnew : name ∉ record.map (·.1) := by
            intro hmem
            exact (List.nodup_append.mp h).2.2 name hmem name (by simp) rfl
          have hrest : ((record ++ [(name, value)]).map (·.1) ++ row.map (·.1)).Nodup := by
            simpa using h
          rw [readCells, hcell]
          simp only [Fields.set_of_not_mem value hnew, ih hrest]
          constructor
          · rintro ⟨columns, hcolumns, rfl⟩
            exact ⟨(name, value) :: columns, .cons ⟨rfl, hcell⟩ hcolumns, by simp⟩
          · rintro ⟨columns, hcolumns, rfl⟩
            obtain ⟨column, others, ⟨hname, hvalue⟩, hothers, rfl⟩ :=
              List.forall₂_cons_left_iff.mp hcolumns
            obtain rfl : value = column.2 := Except.ok.inj (hcell.symm.trans hvalue)
            obtain rfl : column.1 = name := hname
            exact ⟨others, hothers, by simp⟩

theorem readRow_eq_ok_iff {row : Row} {record : Record} (h : (row.map (·.1)).Nodup) :
    readRow row = .ok record ↔ List.Forall₂ Decodes row record := by
  rw [readRow, readCells_eq_ok_iff (by simpa using h)]
  simp

theorem readCells_eq_error_iff {record : Record} {index : Nat} {row : Row} {failure : Failure} :
    readCells record index row = .error failure ↔
      ∃ before sent after, row = before ++ sent :: after ∧
        (∀ earlier ∈ before, ∃ value, earlier.2.json = .ok value) ∧
        ∃ fault, sent.2.json = .error fault ∧
          failure = .decode sent.1 ("error occurred while decoding column " ++
            Text.natText (index + before.length) ++ ": " ++ fault.message) := by
  induction row generalizing record index with
  | nil => simp [readCells]
  | cons head row ih =>
      obtain ⟨name, cell⟩ := head
      rw [exists_eq_append_cons_iff, readCells]
      cases hcell : cell.json with
      | error fault => simp [hcell, eq_comm]
      | ok value =>
          have hindex (before : Row) :
              index + ((name, cell) :: before).length = index + 1 + before.length := by
            rw [List.length_cons, Nat.add_right_comm, Nat.add_assoc]
          simp only [ih, List.forall_mem_cons, hindex, hcell, reduceCtorEq, false_and, exists_false,
            and_false, false_or, Except.ok.injEq, exists_eq', true_and]

theorem readRows_eq_records_iff {rows : List Row} {records : List Record}
    (h : ∀ row ∈ rows, (row.map (·.1)).Nodup) :
    readRows rows = .records records ↔ List.Forall₂ (List.Forall₂ Decodes) rows records := by
  have hrows : rows.mapM readRow = .ok records ↔
      List.Forall₂ (List.Forall₂ Decodes) rows records := by
    have hread : List.Forall₂ (fun row record => readRow row = .ok record) rows records ↔
        List.Forall₂ (List.Forall₂ Decodes) rows records := by
      constructor
      · intro hall
        exact ((List.forall₂_and_left _ _).mpr ⟨h, hall⟩).imp fun row record hrow =>
          (readRow_eq_ok_iff hrow.1).mp hrow.2
      · intro hall
        exact ((List.forall₂_and_left _ _).mpr ⟨h, hall⟩).imp fun row record hrow =>
          (readRow_eq_ok_iff hrow.1).mpr hrow.2
    exact ⟨fun hall => hread.mp (forall₂_of_mapM_eq_ok hall),
      fun hall => mapM_eq_ok_of_forall₂ (hread.mpr hall)⟩
  rw [← hrows, readRows]
  cases rows.mapM readRow <;> simp

theorem readRows_eq_failed_iff {rows : List Row} {failure : Failure} :
    readRows rows = .failed failure ↔ ∃ before row after, rows = before ++ row :: after ∧
      (∀ earlier ∈ before, ∃ record, readRow earlier = .ok record) ∧
      readRow row = .error failure := by
  rw [← mapM_eq_error_iff, readRows]
  cases rows.mapM readRow <;> simp

theorem Server.ask_eq_records_iff {server : Server} {d : Sql.Dialect}
    {failure : String → Failure} {statement : Statement} {records : List Record}
    (h : ∀ rows, server.answer d statement = .ok rows → ∀ row ∈ rows, (row.map (·.1)).Nodup) :
    server.ask d failure statement = .records records ↔
      ∃ rows, server.answer d statement = .ok rows ∧
        List.Forall₂ (List.Forall₂ fun sent column => Decodes (sent.1, sent.2.cell) column)
          rows records := by
  rw [Server.ask]
  cases hanswer : server.answer d statement with
  | error m => simp
  | ok rows =>
      have hnames : ∀ row ∈ rows.map Row.ofWire, (row.map (·.1)).Nodup := by
        simpa [Row.ofWire, Function.comp_def] using h rows hanswer
      simp only [readRows_eq_records_iff hnames, List.forall₂_map_left_iff, Row.ofWire]
      simp

end Rostering.Storage
