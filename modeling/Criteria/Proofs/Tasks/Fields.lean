import Criteria.Proofs.Readers
import Criteria.Tasks.Model

namespace Criteria

namespace Tasks

def TaskList.reader : Reader TaskList :=
  .require .integer "_id" fun id =>
    .require .text "name" fun name => .result (.ok ⟨id, name⟩)

theorem TaskList.maps_reader : TaskList.reader.Maps TaskList.entity := by
  intro row
  simp only [reader, Reader.run_require]
  rfl

namespace Task

def reader : Reader Task :=
  .require .integer "_id" fun id =>
    .require .integer "list_id" fun listId =>
      .require .text "name" fun name =>
        .require .optionalText "content" fun content =>
          .require .boolean "done" fun done =>
            .require .integer "priority" fun priority =>
              .result (.ok ⟨id, listId, name, content.getD "", done, priority⟩)

theorem maps_reader : Task.reader.Maps Task.entity := by
  intro row
  simp only [reader, Reader.run_require]
  rfl

/-- The fields of a task in the order in which they are read. -/
def fields : List (Accessor × String) :=
  [(.integer, "_id"), (.integer, "list_id"), (.text, "name"), (.optionalText, "content"),
    (.boolean, "done"), (.integer, "priority")]

theorem ofRow_eq_error_iff {row : Row} {fault : MappingError} :
    ofRow row = .error fault ↔ row.Stops fields fault := by
  have none (task : Task) :
      (Reader.result (.ok task)).run row = .error fault ↔ row.Stops [] fault :=
    ⟨nofun, nofun⟩
  rw [show ofRow row = _ from maps_reader row]
  exact Reader.run_require_eq_error_iff fun _ => Reader.run_require_eq_error_iff fun _ =>
    Reader.run_require_eq_error_iff fun _ => Reader.run_require_eq_error_iff fun _ =>
      Reader.run_require_eq_error_iff fun _ => Reader.run_require_eq_error_iff fun _ => none _

/-- The row holds the task. Without a content it holds the empty one. -/
structure HeldBy (task : Task) (row : Row) : Prop where
  id : row.Leads "_id" (.integer task.id)
  listId : row.Leads "list_id" (.integer task.listId)
  name : row.Leads "name" (.text task.name)
  content : row.Leads "content" (.text task.content) ∨
    row.Leads "content" .null ∧ task.content = ""
  done : row.Leads "done" (.integer (if task.done then 1 else 0))
  priority : row.Leads "priority" (.integer task.priority)

theorem ofRow_eq_ok_iff {row : Row} {task : Task} : ofRow row = .ok task ↔ task.HeldBy row := by
  rw [show ofRow row = _ from maps_reader row]
  simp (disch := decide) only [reader, Reader.run_require_eq_ok_iff, Accessor.stored, Reader.run]
  constructor
  · rintro ⟨id, hasId, listId, hasListId, name, hasName, content, hasContent, done, hasDone,
      priority, hasPriority, ⟨⟩⟩
    refine ⟨hasId, hasListId, hasName, ?_, hasDone, hasPriority⟩
    cases content with
    | none => exact .inr ⟨hasContent, rfl⟩
    | some s => exact .inl hasContent
  · intro held
    obtain ⟨content, hasContent, shown⟩ : ∃ content : Option String,
        row.Leads "content" (content.elim .null .text) ∧ content.getD "" = task.content := by
      rcases held.content with stored | ⟨stored, empty⟩
      · exact ⟨some task.content, stored, rfl⟩
      · exact ⟨none, stored, empty.symm⟩
    refine ⟨task.id, held.id, task.listId, held.listId, task.name, held.name, content, hasContent,
      task.done, held.done, task.priority, held.priority, ?_⟩
    rw [shown]

end Task

theorem TaskList.columns_reader (row : Row) :
    TaskList.reader.columns row ⊆ TaskList.entity.columns := by
  refine Reader.columns_require_subset (by decide) fun _ => ?_
  exact Reader.columns_require_subset (by decide) fun _ => List.nil_subset _

theorem Task.columns_reader (row : Row) : Task.reader.columns row ⊆ Task.entity.columns := by
  refine Reader.columns_require_subset (by decide) fun _ => ?_
  refine Reader.columns_require_subset (by decide) fun _ => ?_
  refine Reader.columns_require_subset (by decide) fun _ => ?_
  refine Reader.columns_require_subset (by decide) fun _ => ?_
  refine Reader.columns_require_subset (by decide) fun _ => ?_
  exact Reader.columns_require_subset (by decide) fun _ => List.nil_subset _

/-- An entity that is read by accessors reads two rows alike where the names that it reads lead to
the same cells, so columns can be moved with their cells, and what comes behind goes unnoticed.
Lists and tasks are read in this way. A task is read from exactly the rows that hold it; for every
other row the first of its fields that cannot be read is to blame. -/
theorem rows_read_by_name :
    (∀ (α : Type) (entity : Entity α) (reader : Reader α), reader.Maps entity →
      (∀ row other : Row, (∀ column ∈ reader.columns row, row.AgreesAt other column) →
        entity.mapper row = entity.mapper other) ∧
        (∀ (before block others : List (String × Cell)) (row : Row), block.Perm others →
          (block.map Prod.fst).Nodup →
            entity.mapper ((row.prepend block).prepend before) =
              entity.mapper ((row.prepend others).prepend before)) ∧
        ∀ pairs more : List (String × Cell),
          (∀ pair ∈ more,
            pair.1 ∉ reader.columns (.ofPairs pairs) ∨ pair.1 ∈ pairs.map Prod.fst) →
              entity.mapper (.ofPairs pairs) = entity.mapper (.ofPairs (pairs ++ more))) ∧
      (∀ (accessor : Accessor) (row other : Row) (column : String), row.AgreesAt other column →
        accessor.read row column = accessor.read other column) ∧
      (∀ (table idColumn : String) (columns : List String) (fields : List (Accessor × String)),
        (Reader.requireAll (fun read => .result (.ok read)) fields).Maps
          (Entity.ofFields table idColumn columns fields)) ∧
      (TaskList.reader.Maps TaskList.entity ∧
        ∀ row, TaskList.reader.columns row ⊆ TaskList.entity.columns) ∧
      (Task.reader.Maps Task.entity ∧
        ∀ row, Task.reader.columns row ⊆ Task.entity.columns) ∧
      (∀ (row : Row) (task : Task), Task.ofRow row = .ok task ↔ task.HeldBy row) ∧
      ∀ (row : Row) (fault : MappingError),
        Task.ofRow row = .error fault ↔ row.Stops Task.fields fault := by
  refine ⟨fun α entity reader maps => ⟨fun row other agrees => ?_,
      fun before block others row permuted distinct => ?_, fun pairs more hidden => ?_⟩,
    fun accessor row other column agrees =>
      Accessor.read_congr (Row.agreesAt_iff.mp agrees) accessor,
    Reader.maps_ofFields, ⟨TaskList.maps_reader, TaskList.columns_reader⟩,
    ⟨Task.maps_reader, Task.columns_reader⟩, fun _ _ => Task.ofRow_eq_ok_iff,
    fun _ _ => Task.ofRow_eq_error_iff⟩
  · rw [maps row, maps other, reader.run_congr agrees]
  · rw [maps, maps, reader.run_of_perm permuted distinct]
  · rw [maps, maps, reader.run_of_append hidden]

private def milkCells : List (String × Cell) :=
  [("_id", .integer 4), ("list_id", .integer 1), ("name", .text "milk"), ("content", .null),
    ("done", .integer 1), ("priority", .integer (-2))]

private def milk : Task :=
  ⟨4, 1, "milk", "", true, -2⟩

/-- Three fields are at fault. The name is the first of them. -/
private def unnamedRow : Row :=
  ⟨["done", "_id", "name", "list_id", "content", "priority"],
    [.integer 2, .integer 4, .integer 7, .integer 1, .null]⟩

/-- The row that comes behind has a column without a cell. -/
theorem rows_read_by_name_milk :
    Task.ofRow (((Row.mk ["note", "_id"] [.null]).prepend milkCells).prepend []) =
        Task.ofRow (((Row.mk ["note", "_id"] [.null]).prepend milkCells.reverse).prepend []) ∧
      Task.ofRow (.ofPairs milkCells) =
        Task.ofRow (.ofPairs (milkCells ++ [("_id", .text "5"), ("note", .null)])) ∧
      milk.HeldBy (.ofPairs milkCells) ∧ Task.ofRow (.ofPairs milkCells) = .ok milk ∧
      Task.ofRow unnamedRow = .error (.typeMismatch "name" "text" "integer") := by
  obtain ⟨mapped, _, _, _, ⟨maps, columns⟩, read, failed⟩ := rows_read_by_name
  obtain ⟨_, moved, behind⟩ := mapped Task Task.entity Task.reader maps
  have held : milk.HeldBy (.ofPairs milkCells) := by
    constructor
    case content => exact .inr ⟨Row.get?_eq_some_iff.mp rfl, rfl⟩
    all_goals exact Row.get?_eq_some_iff.mp rfl
  refine ⟨moved [] milkCells _ _ (List.reverse_perm _).symm (by decide),
    behind _ _ fun pair member => ?_, held, (read _ _).mpr held, (failed _ _).mpr ?_⟩
  · by_cases known : pair.1 ∈ Task.entity.columns
    · exact .inr known
    · exact .inl fun among => known (columns _ among)
  · have sound (accessor : Accessor) (column : String)
        (read : ∃ value, accessor.value unnamedRow column = .ok value) (other : MappingError) :
        ¬ accessor.Faults unnamedRow column other := by
      obtain ⟨value, read⟩ := read
      rw [← Accessor.value_eq_error_iff, read]
      exact nofun
    have leads : unnamedRow.Leads "name" (.integer 7) := Row.get?_eq_some_iff.mp rfl
    have faults : Accessor.text.Faults unnamedRow "name" (.typeMismatch "name" "text" "integer") :=
      Accessor.Faults.mismatch leads rfl
    exact .later (sound _ _ ⟨_, rfl⟩) (.later (sound _ _ ⟨_, rfl⟩) (.here faults _))

end Tasks

end Criteria
