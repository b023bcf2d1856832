import Criteria.Tasks.Action
import Criteria.Tasks.Filter
import Criteria.Tasks.Listing

namespace Criteria.Tasks

inductive Command
  | init
  | add (name list : String) (priority : Int64) (content : String)
  | done (id : Int64)
  | ls (filter : Filter) (asJson : Bool)
  deriving DecidableEq

namespace Command

def runInit : Action String := do
  Action.initSchema
  return "initialized"

def runAdd (name list : String) (priority : Int64) (content : String) : Action String := do
  let list ← Action.ensureList list
  let task ← Action.insertTask list name content priority
  return "added #" ++ toString task.id.toInt ++ " to " ++ list.name

def runDone (id : Int64) : Action String := do
  let task ← Action.markDone id
  return "done #" ++ toString task.id.toInt ++ " " ++ task.name

/-- Lists are asked for only where their names are shown. -/
def runLs (filter : Filter) (asJson : Bool) : Action String := do
  let q ← Action.ofQuery filter.query
  Action.report (.listingTasks q.compile.selection)
  let tasks ← Action.ask (q.getList · Task.entity)
  if asJson then return json tasks
  let lists ← Action.ask (Query.empty.getList · TaskList.entity)
  return lines tasks lists

def run : Command → Action String
  | init => runInit
  | add name list priority content => runAdd name list priority content
  | done id => runDone id
  | ls filter asJson => runLs filter asJson

end Command

end Criteria.Tasks
