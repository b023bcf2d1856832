import Criteria.Sql.Evaluation
import Criteria.Sql.Grammar
import Criteria.Store

namespace Criteria.Sql

structure Answer where
  columns : List String
  rows : List (List Datum)

inductive Stage
  | prepare
  | run
  | read
  deriving DecidableEq

def Stage.phrase : Stage → String
  | prepare => "failed to prepare query"
  | run => "failed to run query"
  | read => "failed to read row"

namespace Select

def names (t : Table) (select : Select) : List String :=
  if select.columns.isEmpty then t.columns.map Column.name
  else select.columns.map fun name => ((findColumn? t.columns name).map Column.name).getD name

end Select

namespace Database

def prepare (db : Database) (tokens : List Token) : Except Failure (Table × Select) := do
  match Select.ofTokens? tokens with
  | some select =>
      let _ ← select.check db []
      let t ← db.require select.table
      return (t, select)
  | none => throw .malformed

/-- The largest number that a limit can be. -/
def largestLimit : Nat :=
  Nat.pow 2 63 - 1

def answer (db : Database) (statement : String) (arguments : List String) :
    Except (Stage × Failure) Answer := do
  let tokens := (Token.ofText? statement).getD []
  let (t, select) ← (db.prepare (Token.bind tokens arguments)).mapError (Stage.prepare, ·)
  let places := tokens.countP Token.isPlaceholder
  if places ≠ arguments.length then
    throw (.run, .argumentCount places arguments.length)
  if select.limits.any (largestLimit < ·) then throw (.read, .mismatch)
  return ⟨select.names t, select.rows db []⟩

def store (db : Database) : Store := fun request =>
  match db.answer request.statement request.arguments with
  | .ok answer => .ok (answer.rows.map fun row => ⟨answer.columns, row.map Datum.cell⟩)
  | .error (stage, failure) =>
      .error ⟨stage.phrase ++ " on '" ++ request.table ++ "'", some failure.message⟩

end Database

end Criteria.Sql
