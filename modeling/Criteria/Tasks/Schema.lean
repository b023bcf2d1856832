import Criteria.Sql.Database
import Criteria.Tasks.Model

/-!
The tables that hold lists and tasks. List names are unique, and a task names the key of its list.
The index of tasks by their lists is left out: it decides nothing but the order in which rows are
read, and that is the order of any plan.
-/

namespace Criteria.Tasks

def listTable : Sql.Table where
  name := TaskList.entity.table
  columns :=
    [{ name := "_id", affinity := .integer },
      { name := "name", affinity := .text, required := true, unique := true }]
  rows := []
  lastKey := some 0

def taskTable : Sql.Table where
  name := Task.entity.table
  columns :=
    [{ name := "_id", affinity := .integer },
      { name := "list_id", affinity := .integer, required := true,
        parent := some TaskList.entity.table },
      { name := "name", affinity := .text, required := true },
      { name := "content", affinity := .text, required := true },
      { name := "done", affinity := .integer, required := true },
      { name := "priority", affinity := .integer, required := true }]
  rows := []
  lastKey := some 0

def createTables (db : Sql.Database) : Except Sql.Failure Sql.Database := do
  let db ← db.create listTable
  db.create taskTable

/-- A new task is not done. -/
def insertTaskRow (db : Sql.Database) (listId : Int64) (name content : String) (priority : Int64) :
    Except Sql.Failure (Int64 × Sql.Database) :=
  db.insert taskTable.name
    [.null, .integer listId, .ofString name, .ofString content, .integer 0, .integer priority]

def insertListRow (db : Sql.Database) (name : String) :
    Except Sql.Failure (Int64 × Sql.Database) :=
  db.insert listTable.name [.null, .ofString name]

def markRowDone (db : Sql.Database) (id : Int64) : Except Sql.Failure Sql.Database :=
  db.update taskTable.name id "done" (.integer 1)

end Criteria.Tasks
