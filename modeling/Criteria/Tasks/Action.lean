import Criteria.Condition
import Criteria.Execution
import Criteria.Sql.Statement
import Criteria.Tasks.Schema

/-!
Actions on a database of tasks. What an action has changed and reported stays when it fails.
-/

namespace Criteria.Tasks

inductive CommandError
  | query (error : QueryError)
  | cannotOpen (path : String)
  | noTask (id : Int64)
  | schema (failure : Sql.Failure)
  | list (name : String) (failure : Sql.Failure)
  | insertion (failure : Sql.Failure)
  | update (failure : Sql.Failure)
  deriving DecidableEq

def CommandError.message : CommandError → String
  | query error => error.message
  | cannotOpen path => "cannot open database " ++ path
  | noTask id => "no task with id " ++ toString id.toInt
  | schema _ => "failed to create schema"
  | list name _ => "failed to create list '" ++ name ++ "'"
  | insertion _ => "failed to insert task"
  | update _ => "failed to update task"

structure Session where
  database : Sql.Database
  events : List Event

namespace Session

def ofDatabase (db : Sql.Database) : Session :=
  ⟨db, []⟩

def inMemory : Session :=
  ofDatabase .empty

/-- There are no directories here, so a database can be opened only where the path names none. No
path holds a NUL. -/
def openPath (path : String) : Except CommandError Session :=
  if '/' ∈ path.toList ∨ '\x00' ∈ path.toList then .error (.cannotOpen path)
  else .ok ⟨.empty, [.openedDatabase path]⟩

end Session

abbrev Action (α : Type) :=
  ExceptT CommandError (StateM Session) α

namespace Action

def report (event : Event) : Action Unit :=
  modify fun s => { s with events := s.events ++ [event] }

def ofQuery (result : Except QueryError α) : Action α :=
  match result with
  | .ok a => return a
  | .error error => throw (.query error)

def ask (execution : Store → Execution α) : Action α := do
  let e := execution (← get).database.store
  modify fun s => { s with events := s.events ++ e.events }
  ofQuery e.result

/-- Changes the database, or leaves it as it is and fails. -/
def change (f : Sql.Database → Except Sql.Failure (α × Sql.Database))
    (cause : Sql.Failure → CommandError) : Action α := do
  match f (← get).database with
  | .ok (a, database) =>
      modify fun s => { s with database }
      return a
  | .error failure => throw (cause failure)

def perform (f : Sql.Database → Except Sql.Failure Sql.Database)
    (cause : Sql.Failure → CommandError) : Action Unit :=
  change (fun db => (f db).map ((), ·)) cause

def initSchema : Action Unit := do
  perform createTables .schema
  report .schemaReady

def findList (name : String) : Action (Option TaskList) := do
  let q ← ofQuery (Query.empty.andEq "name" (.scalar (.text name)))
  ask (q.get · TaskList.entity)

def createList (name : String) : Action TaskList := do
  let id ← change (insertListRow · name) (.list name)
  report (.createdList id name)
  return ⟨id, name⟩

def ensureList (name : String) : Action TaskList := do
  match ← findList name with
  | some list => return list
  | none => createList name

def insertTask (list : TaskList) (name content : String) (priority : Int64) : Action Task := do
  let id ← change (insertTaskRow · list.id name content priority) .insertion
  report (.insertedTask id list.name)
  return ⟨id, list.id, name, content, false, priority⟩

def findTask (id : Int64) : Action (Option Task) := do
  let q ← ofQuery (Query.empty.andEq "_id" (.scalar (.int id)))
  ask (q.get · Task.entity)

def markDone (id : Int64) : Action Task := do
  match ← findTask id with
  | some task =>
      perform (markRowDone · id) .update
      return { task with done := true }
  | none => throw (.noTask id)

end Action

end Criteria.Tasks
