import Criteria.Clause
import Criteria.Entity
import Criteria.Event
import Criteria.Store

namespace Criteria

structure Execution (α : Type) where
  requests : List Request
  events : List Event
  result : Except QueryError α

namespace Execution

def map (f : α → β) (e : Execution α) : Execution β :=
  { e with result := e.result.map f }

/-- Reads the answer. Nothing is read when the store failed. -/
def reading (read : α → Except MappingError β) (e : Execution α) : Execution β :=
  { e with result := e.result.bind fun a => (read a).mapError .mapping }

end Execution

namespace Query

def request (q : Query) (table : String) (columns : List String) (limit : Option UInt64) :
    Request :=
  { table, columns, limit
    selection := q.compile.selection
    arguments := q.compile.arguments
    orderBy := q.orderText? }

def run (q : Query) (store : Store) (table : String) (columns : List String)
    (limit : Option UInt64) : Execution (List Row) :=
  let request := q.request table columns limit
  let issued := Event.issuingQuery table request.selection request.arguments.length
  match store request with
  | .ok rows => ⟨[request], [issued, .queryReturned table rows.length], .ok rows⟩
  | .error error =>
      ⟨[request], [issued, .queryFailed table error.message], .error (.storageUnavailable error)⟩

/-- The first answer, if there is one. The query's own limit does not matter. -/
def get (q : Query) (store : Store) (entity : Entity α) : Execution (Option α) :=
  (q.run store entity.table entity.columns (some 1)).reading fun rows =>
    match rows with
    | [] => .ok none
    | row :: _ => (entity.mapper row).map some

/-- All answers up to the query's limit; the first row that cannot be read fails the call. -/
def getList (q : Query) (store : Store) (entity : Entity α) : Execution (List α) :=
  (q.run store entity.table entity.columns q.limit).reading (·.mapM entity.mapper)

/-- How many rows there are without a limit. Only the identities are asked for. -/
def count (q : Query) (store : Store) (entity : Entity α) : Execution Nat :=
  (q.run store entity.table [entity.idColumn] none).map List.length

end Query

end Criteria
