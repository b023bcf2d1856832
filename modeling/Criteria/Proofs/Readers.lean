import Criteria.Entity
import Criteria.Proofs.Lookups
import Criteria.Proofs.Rows

namespace Criteria

namespace Accessor

abbrev Result : Accessor → Type
  | cell => Cell
  | integer => Int64
  | optionalInteger => Option Int64
  | real => Binary64
  | boolean => Bool
  | text => String
  | optionalText => Option String

def value : (accessor : Accessor) → Row → String → Except MappingError accessor.Result
  | cell => Row.cell
  | integer => Row.integer
  | optionalInteger => Row.optionalInteger
  | real => Row.real
  | boolean => Row.boolean
  | text => Row.text
  | optionalText => Row.optionalText

theorem value_congr {row other : Row} {column : String}
    (same : row.get? column = other.get? column) (accessor : Accessor) :
    accessor.value row column = accessor.value other column := by
  cases accessor <;>
    simp only [value, Row.cell, Row.integer, Row.optionalInteger, Row.real, Row.boolean, Row.text,
      Row.optionalText, same]

def field : (accessor : Accessor) → accessor.Result → Field
  | cell => .cell
  | integer => fun n => .integer (some n)
  | optionalInteger => .integer
  | real => .real
  | boolean => .boolean
  | text => fun s => .text (some s)
  | optionalText => .text

theorem read_eq_map (accessor : Accessor) (row : Row) (column : String) :
    accessor.read row column = (accessor.value row column).map accessor.field := by
  cases accessor <;> rfl

theorem read_congr {row other : Row} {column : String}
    (same : row.get? column = other.get? column) (accessor : Accessor) :
    accessor.read row column = accessor.read other column := by
  rw [read_eq_map, read_eq_map, value_congr same]

def readAll (row : Row) (fields : List (Accessor × String)) : Except MappingError (List Field) :=
  fields.mapM fun (accessor, column) => accessor.read row column

theorem readAll_cons (accessor : Accessor) (row : Row) (column : String)
    (rest : List (Accessor × String)) :
    readAll row ((accessor, column) :: rest) =
      (accessor.value row column).bind fun value =>
        (readAll row rest).map (accessor.field value :: ·) := by
  rw [readAll, List.mapM_cons]
  show (accessor.read row column).bind _ = _
  rw [read_eq_map]
  cases accessor.value row column with
  | error fault => rfl
  | ok value =>
      show (readAll row rest).bind _ = (readAll row rest).map _
      cases readAll row rest <;> rfl

/-- The type that a mismatch names. A cell read as it is has none. -/
def expected : Accessor → String
  | cell => ""
  | integer | optionalInteger | boolean => "integer"
  | real => "real"
  | text | optionalText => "text"

/-- The types of cells that the accessor reads. -/
def takes : Accessor → Cell → Bool
  | cell, _ => true
  | integer, .integer _ | boolean, .integer _ | real, .integer _ | real, .real _ => true
  | optionalInteger, .null | optionalInteger, .integer _ => true
  | text, .text _ | optionalText, .null | optionalText, .text _ => true
  | _, _ => false

/-- The cell that holds the value. A real can also be read from an integer. -/
def stored : (accessor : Accessor) → accessor.Result → Cell
  | cell, c => c
  | integer, n => .integer n
  | optionalInteger, n => n.elim .null .integer
  | real, x => .real x
  | boolean, b => .integer (if b then 1 else 0)
  | text, s => .text s
  | optionalText, s => s.elim .null .text

/-- What is wrong with the cell that a name leads to, if it leads to one. -/
inductive Faults (accessor : Accessor) (row : Row) (column : String) : MappingError → Prop
  | missing (absent : ∀ cell, ¬ row.Leads column cell) :
      Faults accessor row column (.missingColumn column)
  | mismatch {cell : Cell} (leads : row.Leads column cell) (other : accessor.takes cell = false) :
      Faults accessor row column (.typeMismatch column accessor.expected cell.typeName)
  | untrue {n : Int64} (truth : accessor = .boolean) (leads : row.Leads column (.integer n))
      (zero : n ≠ 0) (one : n ≠ 1) :
      Faults accessor row column (.invalidValue column (toString n.toInt ++ " is not a boolean"))

section

variable {accessor : Accessor} {row : Row} {column : String}

theorem value_of_missing (missing : row.get? column = none) :
    accessor.value row column = .error (.missingColumn column) := by
  have failed := Row.cell_of_missing missing
  cases accessor <;>
    simp only [value, Row.integer, Row.optionalInteger, Row.real, Row.boolean, Row.text,
      Row.optionalText, failed] <;>
    rfl

theorem value_of_other {cell : Cell} (found : row.get? column = some cell)
    (other : accessor.takes cell = false) :
    accessor.value row column = .error (.typeMismatch column accessor.expected cell.typeName) := by
  have read := Row.cell_of_get? found
  cases accessor <;> cases cell <;> cases other <;>
    simp only [value, Row.integer, Row.optionalInteger, Row.real, Row.boolean, Row.text,
      Row.optionalText, read] <;>
    rfl

theorem value_of_stored {value : accessor.Result}
    (found : row.get? column = some (accessor.stored value)) :
    accessor.value row column = .ok value := by
  have read := Row.cell_of_get? found
  cases accessor
  case boolean => exact Row.boolean_of_get? found
  case optionalInteger =>
    cases value <;> simp only [Accessor.value, Row.optionalInteger, read] <;> rfl
  case optionalText =>
    cases value <;> simp only [Accessor.value, Row.optionalText, read] <;> rfl
  all_goals
    simp only [Accessor.value, Row.integer, Row.optionalInteger, Row.real, Row.text,
      Row.optionalText, read]
    rfl

/-- Of the cells of a right type only the integers that are no truth values hold nothing. A real is
also read from an integer. -/
theorem stored_or_untrue : ∀ {accessor : Accessor} {cell : Cell},
    accessor.takes cell = true → accessor ≠ .real →
      (∃ value, accessor.stored value = cell) ∨
        accessor = .boolean ∧ ∃ n : Int64, cell = .integer n ∧ n ≠ 0 ∧ n ≠ 1
  | .cell, held, _, _ => .inl ⟨held, rfl⟩
  | .integer, .integer n, _, _ => .inl ⟨n, rfl⟩
  | .optionalInteger, .null, _, _ => .inl ⟨none, rfl⟩
  | .optionalInteger, .integer n, _, _ => .inl ⟨some n, rfl⟩
  | .text, .text s, _, _ => .inl ⟨s, rfl⟩
  | .optionalText, .null, _, _ => .inl ⟨none, rfl⟩
  | .optionalText, .text s, _, _ => .inl ⟨some s, rfl⟩
  | .boolean, .integer n, _, _ => by
      by_cases zero : n = 0
      · exact .inl ⟨false, congrArg Cell.integer zero.symm⟩
      · by_cases one : n = 1
        · exact .inl ⟨true, congrArg Cell.integer one.symm⟩
        · exact .inr ⟨rfl, n, rfl, zero, one⟩
  | .real, _, _, other => absurd rfl other

theorem value_of_untrue {n : Int64} (found : row.get? column = some (.integer n)) (zero : n ≠ 0)
    (one : n ≠ 1) :
    boolean.value row column =
      .error (.invalidValue column (toString n.toInt ++ " is not a boolean")) := by
  rw [value, Row.boolean_of_integer found, if_neg zero, if_neg one]

theorem real_of_taken {cell : Cell} (found : row.get? column = some cell)
    (taken : Accessor.real.takes cell = true) : ∃ x, Accessor.real.value row column = .ok x := by
  have read := Row.cell_of_get? found
  cases cell <;> cases taken <;> simp only [value, Row.real, read] <;> exact ⟨_, rfl⟩

theorem exists_of_value_eq_ok (accessor : Accessor) {value : accessor.Result}
    (read : accessor.value row column = .ok value) :
    ∃ cell, row.get? column = some cell ∧ accessor.takes cell = true := by
  cases found : row.get? column with
  | none => rw [value_of_missing found] at read; cases read
  | some cell =>
      refine ⟨cell, rfl, Bool.of_not_eq_false fun other => ?_⟩
      rw [value_of_other found other] at read
      cases read

theorem value_eq_ok_iff {value : accessor.Result} (other : accessor ≠ .real) :
    accessor.value row column = .ok value ↔ row.Leads column (accessor.stored value) := by
  rw [← Row.get?_eq_some_iff]
  refine ⟨fun read => ?_, value_of_stored⟩
  obtain ⟨cell, found, taken⟩ := exists_of_value_eq_ok accessor read
  rcases stored_or_untrue taken other with ⟨held, rfl⟩ | ⟨rfl, n, rfl, zero, one⟩
  · rw [value_of_stored found] at read
    cases read
    exact found
  · rw [value_of_untrue found zero one] at read
    cases read

theorem Faults.value {fault : MappingError} (faults : accessor.Faults row column fault) :
    accessor.value row column = .error fault := by
  cases faults with
  | missing absent => exact value_of_missing (Row.get?_eq_none_iff.mpr absent)
  | mismatch leads other => exact value_of_other (Row.get?_eq_some_iff.mpr leads) other
  | untrue truth leads zero one =>
      subst truth
      exact value_of_untrue (Row.get?_eq_some_iff.mpr leads) zero one

theorem reads_or_faults (accessor : Accessor) (row : Row) (column : String) :
    (∃ value, accessor.value row column = .ok value) ∨
      ∃ fault, accessor.Faults row column fault := by
  cases found : row.get? column with
  | none => exact .inr ⟨_, .missing (Row.get?_eq_none_iff.mp found)⟩
  | some cell =>
      have leads := Row.get?_eq_some_iff.mp found
      cases taken : accessor.takes cell with
      | false => exact .inr ⟨_, .mismatch leads taken⟩
      | true =>
          by_cases real : accessor = .real
          · subst real
            exact .inl (real_of_taken found taken)
          · rcases stored_or_untrue taken real with ⟨held, rfl⟩ | ⟨truth, n, rfl, zero, one⟩
            · exact .inl ⟨held, value_of_stored found⟩
            · exact .inr ⟨_, .untrue truth leads zero one⟩

theorem value_eq_error_iff {fault : MappingError} :
    accessor.value row column = .error fault ↔ accessor.Faults row column fault := by
  refine ⟨fun failed => ?_, Faults.value⟩
  rcases reads_or_faults accessor row column with ⟨value, read⟩ | ⟨other, faults⟩
  · rw [read] at failed
    cases failed
  · rw [faults.value] at failed
    cases failed
    exact faults

end

end Accessor

/-- A reader that reads one column after the other. What it reads next, and what it gives in the
end, hang on what it was given so far, errors included. -/
inductive Reader (α : Type) : Type
  | result (outcome : Except MappingError α)
  | read (accessor : Accessor) (column : String)
      (next : Except MappingError accessor.Result → Reader α)

namespace Reader

def run (row : Row) : Reader α → Except MappingError α
  | result outcome => outcome
  | read accessor column next => (next (accessor.value row column)).run row

/-- The columns that are read from the row, in turn. -/
def columns (row : Row) : Reader α → List String
  | result _ => []
  | read accessor column next => column :: (next (accessor.value row column)).columns row

theorem run_congr {row other : Row} (reader : Reader α)
    (agrees : ∀ column ∈ reader.columns row, row.AgreesAt other column) :
    reader.run row = reader.run other := by
  induction reader with
  | result outcome => rfl
  | read accessor column next induction =>
      obtain ⟨here, later⟩ := List.forall_mem_cons.mp agrees
      -- What is read here is the same, and so the reader that goes on is the same one.
      have same := Accessor.value_congr (Row.agreesAt_iff.mp here) accessor
      rw [run, run, ← same]
      exact induction _ later

/-- Columns of different names can be moved with their cells, other columns around them or not. -/
theorem run_of_perm (reader : Reader α) {block others : List (String × Cell)}
    (permuted : block.Perm others) (distinct : (block.map Prod.fst).Nodup)
    (before : List (String × Cell)) (row : Row) :
    reader.run ((row.prepend block).prepend before) =
      reader.run ((row.prepend others).prepend before) :=
  reader.run_congr fun column _ => Row.agreesAt_of_perm permuted distinct before row column

/-- Cells at the end go unnoticed where their names are not read or stand before. -/
theorem run_of_append (reader : Reader α) {pairs more : List (String × Cell)}
    (hidden : ∀ pair ∈ more,
      pair.1 ∉ reader.columns (.ofPairs pairs) ∨ pair.1 ∈ pairs.map Prod.fst) :
    reader.run (.ofPairs pairs) = reader.run (.ofPairs (pairs ++ more)) := by
  refine reader.run_congr fun column read => Row.agreesAt_of_append fun pair member named => ?_
  subst named
  exact (hidden pair member).resolve_left fun unread => unread read

/-- Reads a column and fails where it cannot be read. -/
def require (accessor : Accessor) (column : String) (next : accessor.Result → Reader α) :
    Reader α :=
  read accessor column fun
    | .ok value => next value
    | .error fault => result (.error fault)

variable {accessor : Accessor} {column : String} {next : accessor.Result → Reader α} {row : Row}

theorem run_require :
    (require accessor column next).run row =
      (accessor.value row column).bind fun value => (next value).run row := by
  rw [require, run]
  cases accessor.value row column <;> rfl

theorem run_require_eq_ok_iff {a : α} (other : accessor ≠ .real) :
    (require accessor column next).run row = .ok a ↔
      ∃ value, row.Leads column (accessor.stored value) ∧ (next value).run row = .ok a := by
  simp only [← Accessor.value_eq_ok_iff other, run_require]
  cases accessor.value row column <;> simp [Except.bind]

theorem columns_require_subset {names : List String} (named : column ∈ names)
    (later : ∀ value, (next value).columns row ⊆ names) :
    (require accessor column next).columns row ⊆ names := by
  rw [require, columns, List.cons_subset]
  refine ⟨named, ?_⟩
  cases accessor.value row column with
  | error fault => exact List.nil_subset names
  | ok value => exact later value

/-- Reads the fields in turn and goes on with all of them. -/
def requireAll (next : List Field → Reader α) : List (Accessor × String) → Reader α
  | [] => next []
  | (accessor, column) :: rest =>
      require accessor column fun value =>
        requireAll (fun others => next (accessor.field value :: others)) rest

theorem run_requireAll (fields : List (Accessor × String)) (next : List Field → Reader α) :
    (requireAll next fields).run row =
      (Accessor.readAll row fields).bind fun read => (next read).run row := by
  induction fields generalizing next with
  | nil => rfl
  | cons field rest induction =>
      obtain ⟨accessor, column⟩ := field
      rw [requireAll, run_require, Accessor.readAll_cons]
      cases accessor.value row column with
      | error fault => rfl
      | ok value =>
          rw [Except.bind, induction]
          cases Accessor.readAll row rest <;> rfl

/-- The entity's rows are read in that way. -/
def Maps (reader : Reader α) (entity : Entity α) : Prop :=
  ∀ row, entity.mapper row = reader.run row

theorem maps_ofFields (table idColumn : String) (columns : List String)
    (fields : List (Accessor × String)) :
    (requireAll (fun read => result (.ok read)) fields).Maps
      (Entity.ofFields table idColumn columns fields) := by
  intro row
  rw [run_requireAll]
  show Accessor.readAll row fields = _
  cases Accessor.readAll row fields <;> rfl

end Reader

namespace Row

/-- The first of the columns that cannot be read cannot be read for that fault. -/
inductive Stops (row : Row) : List (Accessor × String) → MappingError → Prop
  | here {accessor : Accessor} {column : String} {fault : MappingError}
      (faults : accessor.Faults row column fault) (rest : List (Accessor × String)) :
      Stops row ((accessor, column) :: rest) fault
  | later {accessor : Accessor} {column : String} {fault : MappingError}
      {rest : List (Accessor × String)} (sound : ∀ other, ¬ accessor.Faults row column other)
      (later : Stops row rest fault) : Stops row ((accessor, column) :: rest) fault

end Row

theorem Reader.run_require_eq_error_iff {accessor : Accessor} {column : String}
    {next : accessor.Result → Reader α} {row : Row} {fault : MappingError}
    {rest : List (Accessor × String)}
    (later : ∀ value, (next value).run row = .error fault ↔ row.Stops rest fault) :
    (require accessor column next).run row = .error fault ↔
      row.Stops ((accessor, column) :: rest) fault := by
  rw [run_require]
  cases read : accessor.value row column with
  | error other =>
      have faults := Accessor.value_eq_error_iff.mp read
      constructor
      · intro failed
        cases failed
        exact .here faults rest
      · intro first
        cases first with
        | here others =>
            rw [Accessor.value_eq_error_iff.mpr others] at read
            obtain rfl := Except.error.inj read
            rfl
        | later sound => exact absurd faults (sound other)
  | ok value =>
      have sound (other : MappingError) : ¬ accessor.Faults row column other := by
        rw [← Accessor.value_eq_error_iff, read]
        exact nofun
      constructor
      · intro failed
        exact .later sound ((later value).mp failed)
      · intro first
        cases first with
        | here faults => exact absurd faults (sound fault)
        | later _ first => exact (later value).mpr first

end Criteria
