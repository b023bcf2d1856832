import Criteria.Proofs.Readers
import Criteria.Proofs.Records
import Criteria.Proofs.Sql.Widths
import Criteria.Proofs.Text.Utf8
import Mathlib.Data.List.Forall2

/-!
Answers of a database as rows. Every result row becomes a row with a cell in each column's place,
and a cell shows the stored value as it is. Text whose bytes are not those of characters is shown as
these bytes, which no reader of text takes.
-/

namespace Criteria

open Criteria.Sql Criteria.Text

/-- What a cell shows of a stored value. -/
inductive Sql.Datum.Shows : Datum → Cell → Prop
  | null : Shows .null .null
  | integer (n : Int64) : Shows (.integer n) (.integer n)
  | real (x : Binary64) : Shows (.real x) (.real x)
  | blob (bytes : ByteArray) : Shows (.blob bytes) (.blob bytes)
  | text {bytes : ByteArray} {s : String} (valid : Utf8.Valid bytes) (same : s.toUTF8 = bytes) :
      Shows (.text bytes) (.text s)
  | raw {bytes : ByteArray} (invalid : ¬ Utf8.Valid bytes) : Shows (.text bytes) (.blob bytes)

theorem Sql.Datum.shows_cell (value : Datum) : value.Shows value.cell := by
  cases value with
  | null => exact .null
  | integer n => exact .integer n
  | real x => exact .real x
  | blob bytes => exact .blob bytes
  | text bytes =>
      cases read : String.fromUTF8? bytes with
      | some s =>
          have same := Utf8.fromUTF8?_eq_some_iff.mp read
          simp only [cell, read]
          exact .text (Utf8.valid_iff.mpr ⟨s, same⟩) same
      | none =>
          simp only [cell, read]
          exact .raw (Utf8.fromUTF8?_eq_none_iff.mp read)

/-- The row has the columns of the answer, and in the place of each a cell that shows its value. -/
structure Row.Presents (row : Row) (columns : List String) (values : List Datum) : Prop where
  named : row.columns = columns
  width : row.cells.length = columns.length
  cells : List.Forall₂ Datum.Shows values row.cells

theorem Row.presents_cells {columns : List String} {values : List Datum}
    (width : values.length = columns.length) :
    Row.Presents ⟨columns, values.map Datum.cell⟩ columns values where
  named := rfl
  width := by rw [List.length_map, width]
  cells := List.forall₂_map_right_iff.mpr <| List.forall₂_same.mpr fun value _ =>
    value.shows_cell

namespace Row.Presents

variable {row : Row} {columns : List String} {values : List Datum} {column : String} {i : Nat}

theorem exists_leads (presents : row.Presents columns values) {value : Datum}
    (here : columns[i]? = some column) (before : ∀ j < i, columns[j]? ≠ some column)
    (stored : values[i]? = some value) : ∃ cell, row.Leads column cell ∧ value.Shows cell := by
  obtain ⟨inside, stored⟩ := List.getElem?_eq_some_iff.mp stored
  have within : i < row.cells.length := presents.cells.length_eq ▸ inside
  have shows : values[i].Shows row.cells[i] := presents.cells.get inside within
  refine ⟨row.cells[i], ⟨i, ?_, ?_, List.getElem?_eq_getElem within⟩, stored ▸ shows⟩
  · rw [presents.named, here]
  · rw [presents.named]
    exact before

/-- Stored text is read as the text with these bytes, or its bytes are no text's and are refused. -/
theorem text_of_stored (presents : row.Presents columns values) {bytes : ByteArray}
    (here : columns[i]? = some column) (before : ∀ j < i, columns[j]? ≠ some column)
    (stored : values[i]? = some (.text bytes)) :
    (∃ s : String, s.toUTF8 = bytes ∧ row.text column = .ok s ∧
        row.optionalText column = .ok (some s)) ∨
      ¬ Utf8.Valid bytes ∧ row.text column = .error (.typeMismatch column "text" "blob") ∧
        row.optionalText column = .error (.typeMismatch column "text" "blob") := by
  obtain ⟨cell, leads, shows⟩ := presents.exists_leads here before stored
  have found := Row.get?_eq_some_iff.mpr leads
  cases shows with
  | text valid same => exact .inl ⟨_, same, text_of_get? found, optionalText_of_get? found⟩
  | raw invalid =>
      have refused (accessor : Accessor) (takes : accessor.takes (.blob bytes) = false) :
          accessor.value row column = .error (.typeMismatch column accessor.expected "blob") :=
        Accessor.value_of_other found takes
      exact .inr ⟨invalid, refused .text rfl, refused .optionalText rfl⟩

end Row.Presents

namespace Sql

/-- The values stand in one row of the table, each in a column with the name that it has in the
answer. -/
def Table.Stores (t : Table) (columns : List String) (values : List Datum) : Prop :=
  ∃ row ∈ t.rows, List.Forall₂ (fun name value =>
    ∃ (i : Nat) (column : Column), t.columns[i]? = some column ∧ column.name = name ∧
      row[i]? = some value) columns values

theorem Frame.find?_of_findColumn? {columns : List Column} {row : List Datum} {name : String}
    {column : Column} (wide : row.length = columns.length)
    (found : findColumn? columns name = some column) :
    ∃ (i : Nat) (value : Datum), columns[i]? = some column ∧ row[i]? = some value ∧
      Frame.find? ⟨columns, row⟩ name = some (column, value) := by
  induction columns generalizing row with
  | nil => cases found
  | cons first rest induction =>
      obtain ⟨value, row, rfl⟩ := List.exists_cons_of_length_eq_add_one wide
      rw [findColumn?, List.find?_cons] at found
      by_cases named : sameName first.name name = true
      · simp only [named, Option.some.injEq] at found
        subst found
        exact ⟨0, value, rfl, rfl, by simp [Frame.find?, named]⟩
      · rw [Bool.not_eq_true] at named
        rw [named] at found
        obtain ⟨i, held, place, stored, shown⟩ := induction (Nat.succ.inj wide) found
        refine ⟨i + 1, held, place, stored, ?_⟩
        rw [Frame.find?, List.zip_cons_cons, List.find?_cons, named]
        exact shown

theorem Scope.value_of_findColumn? {columns : List Column} {row : List Datum} {name : String}
    {column : Column} {outer : Scope} (wide : row.length = columns.length)
    (found : findColumn? columns name = some column) :
    ∃ i : Nat, columns[i]? = some column ∧
      row[i]? = some (Scope.value (⟨columns, row⟩ :: outer) name) := by
  obtain ⟨i, value, place, stored, shown⟩ := Frame.find?_of_findColumn? wide found
  refine ⟨i, place, ?_⟩
  simp only [Scope.value, Scope.find?, List.findSome?_cons, shown, stored]

namespace Reach

theorem check_of_checkAll {reach : Reach} {names : List String}
    (checked : reach.checkAll names = .ok ()) : ∀ name ∈ names, reach.check name = .ok () := by
  induction names with
  | nil => simp
  | cons first rest induction =>
      rw [checkAll, List.forM_eq_forM, List.forM_cons] at checked
      cases here : reach.check first with
      | error failure =>
          rw [here] at checked
          cases checked
      | ok _ =>
          rw [here] at checked
          exact List.forall_mem_cons.mpr ⟨here, induction checked⟩

theorem exists_of_check {columns : List Column} {name : String}
    (checked : Reach.check [columns] name = .ok ()) :
    ∃ column, findColumn? columns name = some column := by
  rw [check, List.any_cons, List.any_nil, Bool.or_false] at checked
  split at checked
  case isTrue found => exact Option.isSome_iff_exists.mp found
  case isFalse => cases checked

end Reach

namespace Select

/-- A statement that has been checked is about a table that there is, and so are its columns. -/
theorem of_check {db : Database} {select : Select} {width : Nat}
    (checked : select.check db [] = .ok width) :
    ∃ t, db.table? select.table = some t ∧
      ∀ name ∈ select.columns, ∃ column, findColumn? t.columns name = some column := by
  obtain ⟨columns, table, condition, orderings, limit⟩ := select
  rw [check, Database.require] at checked
  cases found : db.table? table with
  | none =>
      rw [found] at checked
      cases checked
  | some t =>
      rw [found] at checked
      refine ⟨t, rfl, fun name member => Reach.exists_of_check ?_⟩
      cases named : Reach.checkAll [t.columns] columns with
      | error failure =>
          simp only [bind, Except.bind, named] at checked
          cases checked
      | ok _ => exact Reach.check_of_checkAll named name member

theorem exists_of_mem_rows {db : Database} {outer : Scope} {select : Select} {t : Table}
    {values : List Datum} (found : db.table? select.table = some t)
    (member : values ∈ select.rows db outer) :
    ∃ row ∈ t.rows, Scope.project (⟨t.columns, row⟩ :: outer) select.columns = values := by
  obtain ⟨sorted, perm, _, answered⟩ := select.exists_sorted db outer
  rw [answered, List.mem_map] at member
  obtain ⟨scope, chosen, rfl⟩ := member
  have among := perm.mem_iff.mp (mem_of_mem_limited chosen)
  rw [kept, found, List.mem_filter, List.mem_map] at among
  obtain ⟨⟨row, stored, rfl⟩, -⟩ := among
  exact ⟨row, stored, rfl⟩

theorem stores_of_mem_rows {db : Database} {select : Select} {t : Table} {values : List Datum}
    (rectangular : db.Rectangular) (found : db.table? select.table = some t)
    (named : ∀ name ∈ select.columns, ∃ column, findColumn? t.columns name = some column)
    (member : values ∈ select.rows db []) : t.Stores (select.names t) values := by
  obtain ⟨row, stored, rfl⟩ := exists_of_mem_rows found member
  have wide := rectangular t (List.mem_of_find?_eq_some found) row stored
  refine ⟨row, stored, ?_⟩
  rw [names, Scope.project]
  split
  case isTrue all =>
    rw [List.forall₂_map_left_iff, List.forall₂_iff_get]
    refine ⟨wide.symm, fun i inside within => ⟨i, t.columns[i], ?_, rfl, ?_⟩⟩
    · exact List.getElem?_eq_getElem inside
    · exact List.getElem?_eq_getElem within
  case isFalse some =>
    rw [List.forall₂_map_left_iff, List.forall₂_map_right_iff, List.forall₂_same]
    intro name asked
    obtain ⟨column, here⟩ := named name asked
    obtain ⟨i, place, value⟩ := @Scope.value_of_findColumn? _ _ _ _ [] wide here
    exact ⟨i, column, place, by rw [here]; rfl, value⟩

end Select

namespace Database

variable {db : Database}

theorem of_prepare {tokens : List Token} {t : Table} {select : Select}
    (prepared : db.prepare tokens = .ok (t, select)) :
    db.table? select.table = some t ∧ ∃ width, select.check db [] = .ok width := by
  rw [prepare] at prepared
  split at prepared
  case h_1 found _ =>
    cases checked : found.check db [] with
    | error failure =>
        rw [checked] at prepared
        cases prepared
    | ok width =>
        obtain ⟨u, present, -⟩ := Select.of_check checked
        simp only [checked, require, present, bind, Except.bind, pure, Except.pure,
          Except.ok.injEq, Prod.mk.injEq] at prepared
        obtain ⟨rfl, rfl⟩ := prepared
        exact ⟨present, width, checked⟩
  case h_2 => cases prepared

theorem of_answer {statement : String} {arguments : List String} {answer : Answer}
    (answered : db.answer statement arguments = .ok answer) :
    ∃ tokens t select, db.prepare tokens = .ok (t, select) ∧
      answer = ⟨select.names t, select.rows db []⟩ := by
  rw [Database.answer] at answered
  cases prepared : db.prepare (Token.bind ((Token.ofText? statement).getD []) arguments) with
  | error failure =>
      rw [prepared] at answered
      cases answered
  | ok found =>
      obtain ⟨t, select⟩ := found
      simp only [prepared, Except.mapError, bind, Except.bind] at answered
      refine ⟨_, t, select, prepared, ?_⟩
      split at answered
      · cases answered
      split at answered
      · cases answered
      · exact (Except.ok.inj answered).symm

end Database

end Sql

namespace Sql.Database

variable {db : Database} {request : Request} {answer : Answer}

theorem stores_of_answer (rectangular : db.Rectangular)
    (answered : db.answer request.statement request.arguments = .ok answer) :
    ∀ values ∈ answer.rows, ∃ t ∈ db.tables, t.Stores answer.columns values := by
  obtain ⟨tokens, t, select, prepared, rfl⟩ := of_answer answered
  obtain ⟨found, width, checked⟩ := of_prepare prepared
  obtain ⟨u, present, named⟩ := Select.of_check checked
  obtain rfl : t = u := Option.some.inj (found.symm.trans present)
  exact fun values member => ⟨t, List.mem_of_find?_eq_some found,
    Select.stores_of_mem_rows rectangular found named member⟩

theorem presents_of_answer (rectangular : db.Rectangular)
    (answered : db.answer request.statement request.arguments = .ok answer) :
    ∃ rows, db.store request = .ok rows ∧
      List.Forall₂ (fun values row => row.Presents answer.columns values) answer.rows rows := by
  refine ⟨_, store_of_answer_ok answered, ?_⟩
  rw [List.forall₂_map_right_iff, List.forall₂_same]
  intro values member
  obtain ⟨t, -, row, -, stored⟩ := stores_of_answer rectangular answered values member
  exact Row.presents_cells stored.length_eq.symm

theorem exists_answer_of_store {rows : List Row} (served : db.store request = .ok rows) :
    ∃ answer, db.answer request.statement request.arguments = .ok answer := by
  cases answered : db.answer request.statement request.arguments with
  | ok answer => exact ⟨answer, rfl⟩
  | error failed =>
      rw [store_of_answer_error answered] at served
      cases served

end Sql.Database

/-- Where a database has an answer, its rows come one by one and in the answer's order, each with
the answer's columns and a cell in the place of each. The cells show values of one stored row as
they are; text is shown as text exactly when its bytes are UTF-8, and else as the bytes. So a reader
of text gets the stored bytes or refuses them. -/
theorem rows_present_answer {db : Database} (rectangular : db.Rectangular) (request : Request) :
    (∀ answer, db.answer request.statement request.arguments = .ok answer →
      (∃ rows, db.store request = .ok rows ∧
        List.Forall₂ (fun values row => row.Presents answer.columns values) answer.rows rows) ∧
      ∀ values ∈ answer.rows, ∃ t ∈ db.tables, t.Stores answer.columns values) ∧
      (∀ rows, db.store request = .ok rows →
        ∃ answer, db.answer request.statement request.arguments = .ok answer) ∧
      (∀ bytes : ByteArray, Utf8.Valid bytes ↔ ∃ s : String, s.toUTF8 = bytes) ∧
      ∀ (columns : List String) (values : List Datum) (row : Row), row.Presents columns values →
        ∀ (i : Nat) (column : String) (bytes : ByteArray), columns[i]? = some column →
          (∀ j < i, columns[j]? ≠ some column) → values[i]? = some (.text bytes) →
            (∃ s : String, s.toUTF8 = bytes ∧ row.text column = .ok s ∧
              row.optionalText column = .ok (some s)) ∨
            ¬ Utf8.Valid bytes ∧
              row.text column = .error (.typeMismatch column "text" "blob") ∧
              row.optionalText column = .error (.typeMismatch column "text" "blob") :=
  ⟨fun _ answered => ⟨Sql.Database.presents_of_answer rectangular answered,
      Sql.Database.stores_of_answer rectangular answered⟩,
    fun _ => Sql.Database.exists_answer_of_store, fun _ => Utf8.valid_iff,
    fun _ _ _ presents _ _ _ => presents.text_of_stored⟩

/-- The text of the second note has a byte that is in no character. -/
private def notes : Table where
  name := "notes"
  columns := [{ name := "_id", affinity := .integer }, { name := "note", affinity := .text }]
  rows := [[.integer 1, .text ⟨#[0xc3, 0xa9]⟩], [.integer 2, .text ⟨#[0x6d, 0xff, 0x6b]⟩]]

private def notebook : Database where
  tables := [notes]

private def allNotes : Request :=
  Query.empty.request "notes" ["note", "_id"] none

private theorem answer_allNotes : notebook.answer allNotes.statement allNotes.arguments =
    .ok ⟨["note", "_id"], [[.text ⟨#[0xc3, 0xa9]⟩, .integer 1],
      [.text ⟨#[0x6d, 0xff, 0x6b]⟩, .integer 2]]⟩ := by
  have plain : Query.empty.PlainNames "notes" ["note", "_id"] :=
    ⟨by decide, by decide, by decide, by decide⟩
  have found : notebook.table? "notes" = some notes := by decide
  have checked :
      (Query.empty.selection "notes" ["note", "_id"] none).check notebook [] = .ok 2 := by
    rfl
  have answered := Database.answer_request Query.Reachable.empty.wellFormed plain found checked
    (by simp [Query.selection, Select.limits, Query.empty, Entry.toExpr?, Expr.conditionLimits])
  have rows : (Query.empty.selection "notes" ["note", "_id"] none).rows notebook [] = _ :=
    Select.rows_unordered _ _ _ found
  rw [rows] at answered
  exact answered

/-- The text that is no text is shown as its bytes, and reading it fails. -/
theorem rows_present_answer_notes :
    notebook.Rectangular ∧ ∃ first second, notebook.store allNotes = .ok [first, second] ∧
      first.text "note" = .ok "é" ∧
      second.text "note" = .error (.typeMismatch "note" "text" "blob") ∧
      second.Presents ["note", "_id"] [.text ⟨#[0x6d, 0xff, 0x6b]⟩, .integer 2] := by
  have rectangular : notebook.Rectangular := by
    unfold Database.Rectangular
    decide
  obtain ⟨answered, -, valid, read⟩ := rows_present_answer rectangular allNotes
  obtain ⟨⟨rows, served, presented⟩, -⟩ := answered _ answer_allNotes
  obtain _ | ⟨first, _ | ⟨second, _ | _⟩⟩ := presented
  refine ⟨rectangular, _, _, served, ?_, ?_, second⟩
  · obtain ⟨s, same, text, -⟩ | ⟨invalid, -⟩ := read _ _ _ first 0 "note" _ rfl nofun rfl
    · have written : s = "é" := String.toByteArray_inj.mp same
      rw [text, written]
    · exact absurd (by decide) invalid
  · obtain ⟨s, same, -⟩ | ⟨-, refused, -⟩ := read _ _ _ second 0 "note" _ rfl nofun rfl
    · exact absurd ((valid _).mpr ⟨s, same⟩) (by decide)
    · exact refused

end Criteria
