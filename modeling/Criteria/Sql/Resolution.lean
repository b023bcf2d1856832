import Criteria.Sql.Database
import Criteria.Sql.Syntax

namespace Criteria.Sql

/-- The columns in reach, the innermost table's first. -/
abbrev Reach :=
  List (List Column)

def findColumn? (columns : List Column) (name : String) : Option Column :=
  columns.find? (sameName ·.name name)

namespace Reach

def check (reach : Reach) (name : String) : Except Failure Unit :=
  if reach.any fun columns => (findColumn? columns name).isSome then .ok ()
  else .error (.noColumn name)

def checkAll (reach : Reach) (names : List String) : Except Failure Unit :=
  names.forM reach.check

end Reach

mutual
def Expr.check (db : Database) (reach : Reach) : Expr → Except Failure Unit
  | .compare column _ _ => reach.check column
  | .like column _ => reach.check column
  | .inList column _ => reach.check column
  | .inSelect column select => do
      reach.check column
      let width ← select.check db reach
      if width = 1 then .ok () else .error (.columnCount 1 width)
  | .not operand => operand.check db reach
  | .and left right => do
      left.check db reach
      right.check db reach
  | .or left right => do
      left.check db reach
      right.check db reach

def Expr.checkCondition (db : Database) (reach : Reach) : Option Expr → Except Failure Unit
  | none => .ok ()
  | some condition => condition.check db reach

/-- Answers the number of columns of the result. -/
def Select.check (db : Database) (outer : Reach) : Select → Except Failure Nat
  | ⟨columns, table, condition, orderings, _⟩ => do
      let t ← db.require table
      let reach : Reach := t.columns :: outer
      reach.checkAll columns
      Expr.checkCondition db reach condition
      reach.checkAll (orderings.map SortKey.column)
      .ok (if columns.isEmpty then t.columns.length else columns.length)
end

end Criteria.Sql
