import Criteria.Entity

namespace Criteria.Tasks

structure TaskList where
  id : Int64
  name : String
  deriving DecidableEq

structure Task where
  id : Int64
  listId : Int64
  name : String
  content : String
  done : Bool
  priority : Int64
  deriving DecidableEq

namespace TaskList

def ofRow (row : Row) : Except MappingError TaskList := do
  let id ← row.integer "_id"
  let name ← row.text "name"
  return ⟨id, name⟩

def entity : Entity TaskList where
  table := "lists"
  idColumn := "_id"
  columns := ["_id", "name"]
  mapper := ofRow

end TaskList

namespace Task

/-- A task without content has the empty one. -/
def ofRow (row : Row) : Except MappingError Task := do
  let id ← row.integer "_id"
  let listId ← row.integer "list_id"
  let name ← row.text "name"
  let content ← row.optionalText "content"
  let done ← row.boolean "done"
  let priority ← row.integer "priority"
  return ⟨id, listId, name, content.getD "", done, priority⟩

def entity : Entity Task where
  table := "tasks"
  idColumn := "_id"
  columns := ["_id", "list_id", "name", "content", "done", "priority"]
  mapper := ofRow

end Task

end Criteria.Tasks
