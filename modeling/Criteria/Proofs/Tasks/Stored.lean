import Criteria.Proofs.Sql.Changes
import Criteria.Proofs.Sql.Values
import Criteria.Proofs.Tasks.Board

namespace Criteria.Tasks

open Criteria.Sql

def TaskList.values (list : TaskList) : List Datum :=
  [.integer list.id, .ofString list.name]

def doneValue (done : Bool) : Int64 :=
  if done then 1 else 0

def Task.values (task : Task) : List Datum :=
  [.integer task.id, .integer task.listId, .ofString task.name, .ofString task.content,
    .integer (doneValue task.done), .integer task.priority]

namespace Board

def listTable (board : Board) : Table :=
  { Tasks.listTable with
    rows := board.lists.map TaskList.values
    lastKey := some (.ofNat board.lists.length) }

def taskTable (board : Board) : Table :=
  { Tasks.taskTable with
    rows := board.items.map fun item => item.task.values
    lastKey := some (.ofNat board.items.length) }

def database (board : Board) (plan : Plan) : Database :=
  { tables := [board.listTable, board.taskTable], plan }

/-- Before there is a board the database has no tables. -/
def stored (plan : Plan) : Option Board → Database
  | none => .empty plan
  | some board => board.database plan

variable {board : Board} {plan : Plan}

@[simp] theorem name_listTable (board : Board) : board.listTable.name = "lists" := rfl

@[simp] theorem name_taskTable (board : Board) : board.taskTable.name = "tasks" := rfl

theorem table?_lists (board : Board) (plan : Plan) :
    (board.database plan).table? "lists" = some board.listTable := by
  simp [database, Database.table?, sameName]

theorem table?_tasks (board : Board) (plan : Plan) :
    (board.database plan).table? "tasks" = some board.taskTable := by
  simp [database, Database.table?, sameName]

theorem replace_lists (board : Board) {t : Table} (named : t.name = "lists") :
    (board.database plan).replace t = { tables := [t, board.taskTable], plan } := by
  simp [database, Database.replace, sameName, named]

theorem replace_tasks (board : Board) {t : Table} (named : t.name = "tasks") :
    (board.database plan).replace t = { tables := [board.listTable, t], plan } := by
  simp [database, Database.replace, sameName, named]

theorem createTables_empty : createTables (.empty plan) = .ok (empty.database plan) := rfl

theorem createTables_database (board : Board) :
    createTables (board.database plan) = .ok (board.database plan) := by
  have lists := (board.table?_lists plan)
  have tasks := (board.table?_tasks plan)
  simp [createTables, Database.create, Tasks.listTable, Tasks.taskTable, TaskList.entity,
    Task.entity, lists, tasks, bind, Except.bind]

theorem keyFor_null (t : Table) {used : Nat} (fits : used ≤ lastNumber) :
    Database.keyFor t (.ofNat used) (some .null) =
      match number? used with
      | some id => .ok id
      | none => .error .full := by
  have full : Int64.ofNat used = Int64.maxValue ↔ ¬ used < lastNumber := by
    rw [lastNumber] at fits ⊢
    have largest : Int64.maxValue.toInt = 2 ^ 63 - 1 := rfl
    rw [← Int64.toInt_inj, Int64.toInt_ofNat_of_lt (by omega), largest]
    omega
  have following : Int64.ofNat used + 1 = .ofNat (used + 1) := by
    rw [Int64.ofNat_add]
    rfl
  rw [Database.keyFor, number?, following]
  by_cases free : used < lastNumber
  · rw [if_neg (by simp [full, free]), if_pos free]
  · rw [if_pos (full.mpr free), if_neg free]

theorem max_number {used : Nat} {id : Int64} (number : number? used = some id) :
    max (Int64.ofNat used) id = .ofNat (used + 1) := by
  obtain ⟨free, rfl⟩ := number?_eq_some.mp number
  rw [lastNumber] at free
  apply if_pos
  rw [Int64.le_iff_toInt_le, Int64.toInt_ofNat_of_lt (by omega), Int64.toInt_ofNat_of_lt (by omega)]
  omega

theorem place_number {rows : List (List Datum)} {ids : List Int64} {row : List Datum} {id : Int64}
    (numbered : Numbered ids) (heads : rows.map List.head? = ids.map (some <| .integer ·))
    (number : number? ids.length = some id) : Table.place row id rows = rows ++ [row] := by
  -- No key exceeds the number of rows, so the next one stands behind them all.
  apply Table.place_last
  intro other member
  have among := List.mem_map_of_mem (f := List.head?) member
  rw [heads] at among
  obtain ⟨k, listed, head⟩ := List.mem_map.mp among
  refine ⟨k, head.symm, ?_⟩
  have bounds := numbered.mem_bounds listed
  have next := toInt_number number
  rw [Int64.lt_iff_toInt_lt]
  omega

theorem insertListRow_database (consistent : board.Consistent) {name : String} {id : Int64}
    (absent : board.list? name = none) (number : number? board.lists.length = some id) :
    insertListRow (board.database plan) name =
      .ok (id, ((board.addList ⟨id, name⟩).database plan)) := by
  have fits : board.lists.length ≤ lastNumber := by simpa using consistent.listIds.length_le
  have following := keyFor_null board.listTable fits
  rw [number] at following
  have checked : (board.database plan).checkValues board.listTable 0 board.listTable.columns
      [.integer id, .ofString name] = .ok () := by
    have free : ∀ row ∈ board.listTable.rows, ∀ other ∈ row[1]?,
        other.order (.ofString name) ≠ .eq := by
      intro row member other held
      obtain ⟨list, among, rfl⟩ := List.mem_map.mp member
      obtain rfl : other = .ofString list.name := by simpa [TaskList.values, eq_comm] using held
      rw [ne_eq, Datum.order_ofString_eq]
      exact list?_eq_none.mp absent list among
    refine Database.checkValues_cons ?_ (Database.checkValues_cons ?_ rfl)
    · exact Database.checkValue_of_fits (by simp) (by simp) (by simp)
    · exact Database.checkValue_of_fits (fun _ => Datum.ofString_ne_null name) (fun _ => free)
        (by simp)
  have inserted := Database.insert_of_checked (board.table?_lists plan) rfl rfl rfl following checked
  have placed : Table.place [.integer id, .ofString name] id board.listTable.rows =
      board.listTable.rows ++ [[.integer id, .ofString name]] := by
    refine place_number consistent.listIds ?_ (by simpa using number)
    simp [listTable, TaskList.values]
  rw [placed, max_number number, replace_lists board rfl] at inserted
  apply inserted.trans
  simp [addList, database, listTable, taskTable, TaskList.values]

theorem insertListRow_full (consistent : board.Consistent) (name : String)
    (number : number? board.lists.length = none) :
    insertListRow (board.database plan) name = .error .full := by
  have fits : board.lists.length ≤ lastNumber := by simpa using consistent.listIds.length_le
  have following := keyFor_null board.listTable fits
  rw [number] at following
  exact Database.insert_of_keyFor_error (board.table?_lists plan) rfl rfl rfl following

theorem isKeyIn_lists {list : TaskList} (listed : list ∈ board.lists) :
    (board.database plan).isKeyIn "lists" (.integer list.id) = true := by
  rw [Database.isKeyIn, table?_lists]
  refine List.any_eq_true.mpr ⟨list.values, List.mem_map_of_mem listed, ?_⟩
  have same : (Datum.integer list.id).order (.integer list.id) = .eq := by
    rw [Datum.order_integer, Std.ReflOrd.compare_self]
  simp [TaskList.values, same]

theorem insertTaskRow_database (consistent : board.Consistent) {list : TaskList} {id : Int64}
    (listed : list ∈ board.lists) (name content : String) (priority : Int64)
    (number : number? board.items.length = some id) :
    insertTaskRow (board.database plan) list.id name content priority =
      .ok (id, ((board.addItem ⟨id, list, name, content, false, priority⟩).database plan)) := by
  have fits : board.items.length ≤ lastNumber := by simpa using consistent.itemIds.length_le
  have following := keyFor_null board.taskTable fits
  rw [number] at following
  have checked : (board.database plan).checkValues board.taskTable 0 board.taskTable.columns
      [.integer id, .integer list.id, .ofString name, .ofString content, .integer 0,
        .integer priority] = .ok () := by
    refine Database.checkValues_cons ?_ (Database.checkValues_cons ?_ (Database.checkValues_cons ?_
      (Database.checkValues_cons ?_ (Database.checkValues_cons ?_
        (Database.checkValues_cons ?_ rfl)))))
    · exact Database.checkValue_of_fits (by simp) (by simp) (by simp)
    · apply Database.checkValue_of_fits (by simp) (by simp)
      intro parent same
      cases same
      exact isKeyIn_lists listed
    · exact Database.checkValue_of_fits (fun _ => Datum.ofString_ne_null name) (by simp) (by simp)
    · exact Database.checkValue_of_fits (fun _ => Datum.ofString_ne_null content) (by simp)
        (by simp)
    · exact Database.checkValue_of_fits (by simp) (by simp) (by simp)
    · exact Database.checkValue_of_fits (by simp) (by simp) (by simp)
  have inserted := Database.insert_of_checked (board.table?_tasks plan) rfl rfl rfl following checked
  have placed : Table.place [.integer id, .integer list.id, .ofString name, .ofString content,
      .integer 0, .integer priority] id board.taskTable.rows = board.taskTable.rows ++
        [[.integer id, .integer list.id, .ofString name, .ofString content, .integer 0,
          .integer priority]] := by
    refine place_number consistent.itemIds ?_ (by simpa using number)
    simp [taskTable, Task.values, Item.task]
  rw [placed, max_number number, replace_tasks board rfl] at inserted
  apply inserted.trans
  simp [addItem, database, listTable, taskTable, Task.values, Item.task, doneValue]

theorem insertTaskRow_full (consistent : board.Consistent) (listId : Int64) (name content : String)
    (priority : Int64) (number : number? board.items.length = none) :
    insertTaskRow (board.database plan) listId name content priority = .error .full := by
  have fits : board.items.length ≤ lastNumber := by simpa using consistent.itemIds.length_le
  have following := keyFor_null board.taskTable fits
  rw [number] at following
  exact Database.insert_of_keyFor_error (board.table?_tasks plan) rfl rfl rfl following

theorem markRowDone_database (board : Board) (id : Int64) :
    markRowDone (board.database plan) id = .ok ((board.setDone id).database plan) := by
  have updated := @Database.update_of_findIdx? (board.database plan) "tasks" board.taskTable id "done"
    (.integer 1) 4 (board.table?_tasks plan) rfl rfl
  rw [replace_tasks board rfl] at updated
  apply updated.trans
  have rows : board.taskTable.rows.map (fun row =>
      if Table.hasKey row id then row.set 4 (.integer 1) else row) =
        (board.setDone id).taskTable.rows := by
    simp only [taskTable, setDone, List.map_map]
    apply List.map_congr_left
    intro item _
    have keyed : Table.hasKey item.task.values id = decide (item.id = id) := by
      simp [Table.hasKey, Task.values, Item.task]
    simp only [Function.comp, keyed, decide_eq_true_eq]
    split <;> rfl
  rw [rows]
  simp [setDone, database, listTable, taskTable]

end Board

end Criteria.Tasks
