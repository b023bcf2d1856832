import Criteria.Sql.Like
import Criteria.Sql.Resolution

namespace Criteria.Sql

structure Frame where
  columns : List Column
  row : List Datum

namespace Frame

def find? (frame : Frame) (name : String) : Option (Column × Datum) :=
  (frame.columns.zip frame.row).find? (sameName ·.1.name name)

end Frame

/-- The current rows, that of the innermost `SELECT` first. -/
abbrev Scope :=
  List Frame

namespace Scope

def find? (scope : Scope) (name : String) : Option (Column × Datum) :=
  scope.findSome? (·.find? name)

def affinity (scope : Scope) (name : String) : Affinity :=
  match scope.find? name with
  | some (column, _) => column.affinity
  | none => .blob

def value (scope : Scope) (name : String) : Datum :=
  match scope.find? name with
  | some (_, value) => value
  | none => .null

end Scope

def Scope.compare (scope : Scope) (column : String) (relation : Relation)
    (argument : Option String) : Truth :=
  let affinity := scope.affinity column
  Datum.related relation (scope.value column) (affinity.convert (.ofArgument argument))

def Scope.like (scope : Scope) (column : String) (argument : Option String) : Truth :=
  match (scope.value column).textBytes?, (Datum.ofArgument argument).textBytes? with
  | some text, some pattern => .ofBool (Like.holds pattern text)
  | _, _ => .unknown

/-- Nothing is in an empty list, and that is certain even of a null. -/
def Scope.inList (scope : Scope) (column : String) (arguments : List (Option String)) : Truth :=
  .any (arguments.map (scope.compare column .eq))

def Scope.inColumn (scope : Scope) (column : String) (affinity : Affinity)
    (values : List Datum) : Truth :=
  let common := (scope.affinity column).common affinity
  let value := common.convert (scope.value column)
  .any (values.map fun d => Datum.related .eq value (common.convert d))

def SortKey.order (key : SortKey) (a b : Scope) : Ordering :=
  let order := (a.value key.column).order (b.value key.column)
  match key.direction with
  | .ascending => order
  | .descending => order.swap

def Scope.order (keys : List SortKey) (a b : Scope) : Ordering :=
  keys.foldr (fun key later => (SortKey.order key a b).then later) .eq

/-- Rows that are equal under the keys stay in the order in which they were read. -/
def Scope.sort (keys : List SortKey) (scopes : List Scope) : List Scope :=
  scopes.mergeSort fun a b => (Scope.order keys a b).isLE

def limited (limit : Option Nat) (rows : List α) : List α :=
  match limit with
  | some n => rows.take n
  | none => rows

/-- The columns of a result row. No names ask for the whole row. -/
def Scope.project (scope : Scope) (names : List String) : List Datum :=
  if names.isEmpty then (scope.head?.map Frame.row).getD [] else names.map scope.value

def Select.affinity (db : Database) (outer : Reach) (select : Select) : Affinity :=
  match db.table? select.table with
  | some t =>
      let found :=
        match select.columns with
        | name :: _ => (t.columns :: outer).findSome? (findColumn? · name)
        | [] => t.columns.head?
      (found.map Column.affinity).getD .blob
  | none => .blob

mutual
def Expr.truth (db : Database) (scope : Scope) : Expr → Truth
  | .compare column relation argument => scope.compare column relation argument
  | .like column argument => scope.like column argument
  | .inList column arguments => scope.inList column arguments
  | .inSelect column select =>
      scope.inColumn column (select.affinity db (scope.map Frame.columns))
        ((select.rows db scope).map fun row => row.headD .null)
  | .not operand => (operand.truth db scope).not
  | .and left right => (left.truth db scope).and (right.truth db scope)
  | .or left right => (left.truth db scope).or (right.truth db scope)

/-- A row is kept only when its condition is true. -/
def Expr.admits (db : Database) (scope : Scope) : Option Expr → Bool
  | none => true
  | some condition => condition.truth db scope = .yes

def Select.rows (db : Database) (outer : Scope) : Select → List (List Datum)
  | ⟨columns, table, condition, orderings, limit⟩ =>
      match db.table? table with
      | none => []
      | some t =>
          let rows := db.plan.visit ⟨columns, table, condition, orderings, limit⟩ t
          let scopes := rows.map fun row => ⟨t.columns, row⟩ :: outer
          let kept := scopes.filter fun scope => Expr.admits db scope condition
          (limited limit (Scope.sort orderings kept)).map (·.project columns)
end

end Criteria.Sql
