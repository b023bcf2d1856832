namespace Criteria

inductive Level
  | trace
  | debug
  | info
  | warn
  deriving DecidableEq

namespace Level

def name : Level → String
  | trace => "TRACE"
  | debug => "DEBUG"
  | info => "INFO"
  | warn => "WARN"

end Level

inductive Event
  | issuingQuery (table selection : String) (arguments : Nat)
  | queryFailed (table error : String)
  | queryReturned (table : String) (rows : Nat)
  | openedDatabase (path : String)
  | schemaReady
  | createdList (id : Int64) (name : String)
  | insertedTask (id : Int64) (list : String)
  | listingTasks (selection : String)
  deriving DecidableEq

namespace Event

def level : Event → Level
  | queryReturned _ _ => .trace
  | queryFailed _ _ => .warn
  | schemaReady => .info
  | _ => .debug

def message : Event → String
  | issuingQuery _ _ _ => "issuing query"
  | queryFailed _ _ => "storage query failed"
  | queryReturned _ _ => "query returned"
  | openedDatabase _ => "opened database"
  | schemaReady => "schema ready"
  | createdList _ _ => "created list"
  | insertedTask _ _ => "inserted task"
  | listingTasks _ => "listing tasks"

def fields : Event → List (String × String)
  | issuingQuery table selection arguments =>
      [("table", table), ("selection", selection), ("args", toString arguments)]
  | queryFailed table error => [("table", table), ("error", error)]
  | queryReturned table rows => [("table", table), ("rows", toString rows)]
  | openedDatabase path => [("path", path)]
  | schemaReady => []
  | createdList id name => [("id", toString id.toInt), ("name", name)]
  | insertedTask id list => [("id", toString id.toInt), ("list", list)]
  | listingTasks selection => [("selection", selection)]

end Event

end Criteria
