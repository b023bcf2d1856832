import Criteria.Sql.Database

namespace Criteria.Sql

/-- A key beyond all others puts its row at the end. -/
theorem Table.place_last {row : List Datum} {key : Int64} {rows : List (List Datum)}
    (before : ∀ other ∈ rows, ∃ k, other.head? = some (.integer k) ∧ ¬ key < k) :
    Table.place row key rows = rows ++ [row] := by
  induction rows with
  | nil => rfl
  | cons first rest induction =>
      obtain ⟨k, head, behind⟩ := before first (by simp)
      have later := induction fun other member => before other (by simp [member])
      rw [Table.place, head, later]
      exact if_neg behind

namespace Database

variable {db : Database} {name : String} {t : Table}

theorem require_of_table? (found : db.table? name = some t) : db.require name = .ok t := by
  rw [require, found]

theorem checkValue_of_fits {index : Nat} {column : Column} {value : Datum}
    (filled : column.required = true → value ≠ .null)
    (fresh : column.unique = true → ∀ row ∈ t.rows, ∀ other ∈ row[index]?,
      other.order value ≠ .eq)
    (known : ∀ parent ∈ column.parent, db.isKeyIn parent value = true) :
    db.checkValue t index column value = .ok () := by
  have present : ¬ (column.required = true ∧ value = .null) := fun missing =>
    filled missing.1 missing.2
  have single : ¬ (column.unique = true ∧ value ≠ .null ∧
      t.rows.any (fun row => row[index]?.any (·.order value == .eq)) = true) := by
    rintro ⟨unique, _, taken⟩
    obtain ⟨row, member, same⟩ := List.any_eq_true.mp taken
    cases held : row[index]? with
    | none => simp [held] at same
    | some other =>
        have different := fresh unique row member other held
        simp [held, different] at same
  rw [checkValue, if_neg present, if_neg single]
  cases refers : column.parent with
  | none => rfl
  | some parent =>
      have kept := known parent refers
      simp [kept, pure, Except.pure]

theorem checkValues_cons {index : Nat} {column : Column} {columns : List Column} {value : Datum}
    {values : List Datum} (first : db.checkValue t index column value = .ok ())
    (later : db.checkValues t (index + 1) columns values = .ok ()) :
    db.checkValues t index (column :: columns) (value :: values) = .ok () := by
  rw [checkValues, first]
  exact later

theorem insert_of_checked {last key : Int64} {values : List Datum}
    (found : db.table? name = some t) (changeable : db.readOnly = false)
    (width : values.length + 1 = t.columns.length) (keyed : t.lastKey = some last)
    (following : keyFor t last (some .null) = .ok key)
    (checked : db.checkValues t 0 t.columns (.integer key :: values) = .ok ()) :
    db.insert name (.null :: values) = .ok (key, db.replace
      { t with
        rows := Table.place (.integer key :: values) key t.rows
        lastKey := some (max last key) }) := by
  rw [insert, require_of_table? found]
  simp [writable, changeable, width, keyed, following, checked, bind, Except.bind, pure,
    Except.pure]

theorem insert_of_keyFor_error {last : Int64} {values : List Datum} {failure : Failure}
    (found : db.table? name = some t) (changeable : db.readOnly = false)
    (width : values.length + 1 = t.columns.length) (keyed : t.lastKey = some last)
    (failed : keyFor t last (some .null) = .error failure) :
    db.insert name (.null :: values) = .error failure := by
  rw [insert, require_of_table? found]
  simp [writable, changeable, width, keyed, failed, bind, Except.bind]

theorem update_of_findIdx? {key : Int64} {column : String} {value : Datum} {index : Nat}
    (found : db.table? name = some t) (changeable : db.readOnly = false)
    (place : t.columns.findIdx? (sameName ·.name column) = some index) :
    db.update name key column value = .ok (db.replace
      { t with
        rows := t.rows.map fun row =>
          if Table.hasKey row key then row.set index value else row }) := by
  rw [update, require_of_table? found]
  simp [writable, changeable, place, bind, Except.bind, pure, Except.pure]

end Database

end Criteria.Sql
