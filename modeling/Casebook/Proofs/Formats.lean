import Casebook.Proofs.Columns
import Casebook.Proofs.Maps
import Casebook.Report.Basic

namespace Casebook

namespace Case

variable {record : Case} {name value : String}

def lastColumn? (record : Case) (name : String) : Option String :=
  ((record.columns.filter fun column => column.1 == name).getLast?).map Prod.snd

theorem lastColumn_mem (last : record.lastColumn? name = some value) : (name, value) ∈ record.columns := by
  obtain ⟨column, behind, rfl⟩ := Option.map_eq_some_iff.mp last
  obtain ⟨member, same⟩ := List.mem_filter.mp (List.mem_of_getLast? behind)
  rwa [← show column.1 = name by simpa using same]

theorem lastColumn_isSome : (record.lastColumn? name).isSome = true ↔ ∃ value, (name, value) ∈ record.columns := by
  simp [lastColumn?]

theorem column_isSome : (record.column? name).isSome = true ↔ ∃ value, (name, value) ∈ record.columns := by
  simp [column?]

theorem Distinct.lastColumn (distinct : record.Distinct) : record.column? name = record.lastColumn? name := by
  cases last : record.lastColumn? name with
  | some value => exact distinct.column_iff.mpr (lastColumn_mem last)
  | none =>
    have nothing : ¬ (record.column? name).isSome = true := by
      rw [column_isSome, ← lastColumn_isSome, last]
      exact Bool.false_ne_true
    simpa using nothing

end Case

namespace Json

def Output.member? (name : String) : Output → Option Output
  | .fields members => (members.find? fun member => member.1 == name).map Prod.snd
  | _ => none

theorem member_texts (map : TextMap) (name : String) :
    (Output.fields (map.entries.map fun entry => (entry.1, .text entry.2))).member? name =
      (map.get? name).map .text := by
  rw [Output.member?, List.find?_map, OrderedMap.get?]
  simp only [Function.comp_def, Text.utf8_beq]
  cases map.entries.find? fun entry => entry.1 == name <;> rfl

end Json

namespace Report

variable {rows : List Row} {row : Row} {name : String}

def Occurs (rows : List Row) (name : String) : Prop := ∃ row ∈ rows, ∃ value, (name, value) ∈ row.record.columns

structure Headed (rows : List Row) (names : List String) : Prop where
  header : (caseTable rows).header = "position" :: "id" :: names
  ascending : names.Pairwise fun name other => Text.utf8 name < Text.utf8 other
  occurring : ∀ name, name ∈ names ↔ Occurs rows name

theorem columnNames_headed (rows : List Row) : Headed rows (columnNames rows) where
  header := rfl
  ascending := OrderedMap.keys_ascending _
  occurring name := by
    rw [columnNames, OrderedMap.key_iff_get Text.utf8_exact.mp, OrderedMap.get_ofList, OrderedMap.isSome_lastUnder]
    simp only [Text.utf8_exact, Occurs, List.mem_flatMap]
    constructor
    · rintro ⟨⟨_, value⟩, ⟨row, among, member⟩, rfl⟩
      exact ⟨row, among, value, member⟩
    · rintro ⟨row, among, value, member⟩
      exact ⟨(name, value), ⟨row, among, member⟩, rfl⟩

theorem Headed.place {names : List String} (headed : Headed rows names) (occurs : Occurs rows name) :
    ∃ place, ∀ other : Nat, names[other]? = some name ↔ other = place := by
  obtain ⟨place, found⟩ := List.mem_iff_getElem?.mp ((headed.occurring name).mpr occurs)
  have distinct : names.Nodup := headed.ascending.imp fun before same => by
    rw [same] at before
    exact List.lt_irrefl _ before
  refine ⟨place, fun other => ⟨fun again => ?_, fun same => same ▸ found⟩⟩
  obtain ⟨bound, _⟩ := List.getElem?_eq_some_iff.mp again
  exact (List.getElem?_inj bound distinct).mp (again.trans found.symm)

-- A cell is the text that JSON has, or it is blank where JSON has nothing.
inductive Agrees : String → Option Json.Output → Prop where
  | text (text : String) : Agrees text (some (.text text))
  | blank : Agrees "" none

theorem Agrees.same {cell text : String} (agrees : Agrees cell (some (.text text))) : cell = text := by
  cases agrees
  rfl

theorem agrees_iff {first last : Option String} (alike : first.isSome = last.isSome) :
    Agrees (first.getD "") (last.map .text) ↔ first = last := by
  cases first with
  | none =>
    obtain rfl : last = none := by simpa using alike.symm
    exact iff_of_true .blank rfl
  | some value =>
    obtain ⟨other, rfl⟩ := Option.isSome_iff_exists.mp alike.symm
    constructor
    · intro agrees
      exact congrArg some agrees.same
    · intro same
      cases same
      exact .text value

theorem caseOutput_columns (row : Row) (name : String) :
    ((caseOutput row).member? "columns").bind (·.member? name) = (row.record.lastColumn? name).map .text := by
  have found : (caseOutput row).member? "columns" =
      some (.fields ((columnFields row.record).entries.map fun entry => (entry.1, .text entry.2))) := rfl
  rw [found, Option.bind_some, Json.member_texts, columnFields, OrderedMap.get_ofList, OrderedMap.lastUnder,
    Case.lastColumn?]
  simp only [Text.utf8_beq]

theorem cell_agrees_iff (row : Row) (name : String) :
    Agrees ((row.record.column? name).getD "") (((caseOutput row).member? "columns").bind (·.member? name)) ↔
      row.record.column? name = row.record.lastColumn? name := by
  have alike : (row.record.column? name).isSome = (row.record.lastColumn? name).isSome := by
    rw [Bool.eq_iff_iff, Case.column_isSome, Case.lastColumn_isSome]
  rw [caseOutput_columns]
  exact agrees_iff alike

structure SameCase (row : Row) (cells : List String) (output : Json.Output) : Prop where
  position : cells[0]? = some (toString row.position) ∧ output.member? "position" = some (.number row.position)
  id : cells[1]? = some (toString row.record.id.toNat) ∧ output.member? "id" = some (.number row.record.id.toNat)

def SameColumn (place : Nat) (name : String) (cells : List String) (output : Json.Output) : Prop :=
  ∃ cell, cells[2 + place]? = some cell ∧ Agrees cell ((output.member? "columns").bind (·.member? name))

theorem sameColumn_iff {names : List String} {place : Nat} (there : names[place]? = some name) (row : Row) :
    SameColumn place name (cells names row) (caseOutput row) ↔
      row.record.column? name = row.record.lastColumn? name := by
  have shown : (cells names row)[2 + place]? = some ((row.record.column? name).getD "") := by
    rw [cells, Nat.add_comm, List.getElem?_cons_succ, List.getElem?_cons_succ, List.getElem?_map, there, Option.map_some]
  unfold SameColumn
  rw [← cell_agrees_iff, shown]
  simp only [Option.some.injEq, exists_eq_left']

theorem formats_agree_iff {rows : List Row} {name : String} (occurs : Occurs rows name) :
    (cases rows .table = (caseTable rows).draw ++ "\n" ++ toString rows.length ++ " row(s)" ∧
      cases rows .json = Json.pretty 0 (.list (rows.map caseOutput))) ∧
    ∃ names place, Headed rows names ∧ (∀ other : Nat, names[other]? = some name ↔ other = place) ∧
      (caseTable rows).rows.length = rows.length ∧
      ∀ (number : Nat) row, rows[number]? = some row → ∃ cells output,
        (caseTable rows).rows[number]? = some cells ∧ (rows.map caseOutput)[number]? = some output ∧
        cells.length = 2 + names.length ∧ SameCase row cells output ∧
        (SameColumn place name cells output ↔ row.record.column? name = row.record.lastColumn? name) ∧
        (row.record.Distinct → SameColumn place name cells output) := by
  have headed := columnNames_headed rows
  obtain ⟨place, placed⟩ := headed.place occurs
  have filled : rows.isEmpty = false := by
    obtain ⟨row, among, _⟩ := occurs
    exact List.isEmpty_eq_false_iff.mpr (List.ne_nil_of_mem among)
  refine ⟨⟨by simp [cases, filled], rfl⟩, columnNames rows, place, headed, placed, List.length_map _, ?_⟩
  intro number row there
  have agreeing := sameColumn_iff ((placed place).mpr rfl) row
  refine ⟨cells (columnNames rows) row, caseOutput row, ?_, ?_, ?_, ⟨⟨rfl, rfl⟩, rfl, rfl⟩, agreeing, ?_⟩
  · change (rows.map (cells (columnNames rows)))[number]? = _
    rw [List.getElem?_map, there, Option.map_some]
  · rw [List.getElem?_map, there, Option.map_some]
  · simp only [cells, List.length_cons, List.length_map]
    omega
  · intro distinct
    exact agreeing.mpr distinct.lastColumn

def mixedRows : List Row :=
  [⟨0, { id := 7, columns := [("name", "Bob")] }⟩, ⟨2, { id := 9, columns := [("age", "30"), ("name", "")] }⟩]

theorem mixed_rows_agree :
    Occurs mixedRows "age" ∧ ∃ place first second output other,
      (caseTable mixedRows).header[2 + place]? = some "age" ∧
      (caseTable mixedRows).rows = [first, second] ∧ mixedRows.map caseOutput = [output, other] ∧
      SameColumn place "age" first output ∧ SameColumn place "age" second other := by
  have occurs : Occurs mixedRows "age" := ⟨_, List.mem_cons_of_mem _ List.mem_cons_self, "30", List.mem_cons_self⟩
  obtain ⟨_, names, place, headed, placed, _, each⟩ := formats_agree_iff occurs
  obtain ⟨first, output, shown, told, _, _, _, alike⟩ := each 0 _ rfl
  obtain ⟨second, other, shown', told', _, _, _, alike'⟩ := each 1 _ rfl
  obtain rfl := Option.some.inj shown
  obtain rfl := Option.some.inj told
  obtain rfl := Option.some.inj shown'
  obtain rfl := Option.some.inj told'
  refine ⟨occurs, place, _, _, _, _, ?_, rfl, rfl, alike ?_, alike' ?_⟩
  · rw [headed.header, Nat.add_comm, List.getElem?_cons_succ, List.getElem?_cons_succ]
    exact (placed place).mpr rfl
  · exact List.nodup_singleton _
  · exact List.nodup_cons.mpr ⟨by decide, List.nodup_singleton _⟩

-- Of two values of one name the table shows the first and JSON the second.
theorem restated_shown_apart :
    Occurs [⟨0, Store.restated⟩] "status" ∧
      caseTable [⟨0, Store.restated⟩] = ⟨["position", "id", "status"], [["0", "1", "open"]]⟩ ∧
      ((caseOutput ⟨0, Store.restated⟩).member? "columns").bind (·.member? "status") = some (.text "closed") ∧
      ¬ SameColumn 0 "status" ["0", "1", "open"] (caseOutput ⟨0, Store.restated⟩) := by
  have told : ((caseOutput ⟨0, Store.restated⟩).member? "columns").bind (·.member? "status") = some (.text "closed") :=
    caseOutput_columns _ _
  refine ⟨⟨_, List.mem_cons_self, "open", List.mem_cons_self⟩, by decide +kernel, told, ?_⟩
  rintro ⟨cell, shown, agrees⟩
  obtain rfl := Option.some.inj shown
  rw [told] at agrees
  exact absurd agrees.same (by decide)

end Report
end Casebook
