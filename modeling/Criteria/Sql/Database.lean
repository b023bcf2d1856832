import Criteria.Sql.Error
import Criteria.Sql.Plan

namespace Criteria.Sql

structure Database where
  tables : List Table
  plan : Plan := .indexed
  checksReferences : Bool := true
  readOnly : Bool := false

namespace Database

/-- Without tables; references are checked and changes are let through. -/
def empty (plan : Plan := .indexed) : Database :=
  { tables := [], plan }

def table? (db : Database) (name : String) : Option Table :=
  db.tables.find? (sameName ·.name name)

def replace (db : Database) (t : Table) : Database :=
  { db with tables := db.tables.map fun u => if sameName u.name t.name then t else u }

def writable (db : Database) : Except Failure Unit :=
  if db.readOnly then .error .readOnly else .ok ()

def require (db : Database) (name : String) : Except Failure Table :=
  match db.table? name with
  | some t => .ok t
  | none => .error (.noTable name)

/-- Adds a table. It has to have a name of its own and columns with different names. -/
def add (db : Database) (t : Table) : Except Failure Database := do
  if (db.table? t.name).isSome then throw (.tableExists t.name)
  if t.columns.isEmpty then throw .malformed
  if ¬ t.columns.Pairwise (fun a b => !sameName a.name b.name) then throw (.columnTwice t.name)
  db.writable
  return { db with tables := db.tables ++ [t] }

/-- A table that exists already stays as it is. -/
def create (db : Database) (t : Table) : Except Failure Database :=
  if (db.table? t.name).isSome then .ok db else db.add t

def refersTo (child : Table) (name : String) (row : List Datum) (key : Int64) : Bool :=
  (child.columns.zip row).any fun (column, value) =>
    column.parent.any (sameName · name) && value.order (.integer key) == .eq

def isReferred (db : Database) (name : String) (key : Int64) : Bool :=
  db.tables.any fun child => child.rows.any (refersTo child name · key)

def isKeyIn (db : Database) (name : String) (value : Datum) : Bool :=
  match db.table? name with
  | some parent => parent.rows.any fun row => row.head?.any (·.order value == .eq)
  | none => false

/-- The key of a new row: the next one where none is given. -/
def keyFor (t : Table) (last : Int64) : Option Datum → Except Failure Int64
  | some .null => if last = Int64.maxValue then .error .full else .ok (last + 1)
  | some (.integer key) =>
      if (t.find? key).isSome then .error (.violated .key) else .ok key
  | _ => .error .mismatch

def checkValue (db : Database) (t : Table) (index : Nat) (column : Column) (value : Datum) :
    Except Failure Unit := do
  if column.required ∧ value = .null then throw (.violated (.required column.name))
  if column.unique ∧ value ≠ .null ∧
      t.rows.any (fun row => row[index]?.any (·.order value == .eq)) then
    throw (.violated (.unique column.name))
  match column.parent with
  | some parent =>
      if db.checksReferences ∧ value ≠ .null ∧ ¬ db.isKeyIn parent value then
        throw (.violated (.reference column.name))
  | none => return ()

def checkValues (db : Database) (t : Table) (index : Nat) :
    List Column → List Datum → Except Failure Unit
  | column :: columns, value :: values => do
      db.checkValue t index column value
      db.checkValues t (index + 1) columns values
  | _, _ => .ok ()

/-- Adds a row. In a table with keys a null in the place of the key asks for the next one. Answers
the key of the row. -/
def insert (db : Database) (name : String) (row : List Datum) :
    Except Failure (Int64 × Database) := do
  let t ← db.require name
  db.writable
  if row.length ≠ t.columns.length then throw (.columnCount t.columns.length row.length)
  match t.lastKey with
  | some last =>
      let key ← keyFor t last row.head?
      let row := .integer key :: row.tail
      db.checkValues t 0 t.columns row
      let t := { t with rows := t.rows |> Table.place row key, lastKey := some (max last key) }
      return (key, db.replace t)
  | none =>
      db.checkValues t 0 t.columns row
      return (0, db.replace { t with rows := t.rows ++ [row] })

/-- Sets a column of the row with the key, if there is one. -/
def update (db : Database) (name : String) (key : Int64) (column : String) (value : Datum) :
    Except Failure Database := do
  let t ← db.require name
  db.writable
  match t.columns.findIdx? (sameName ·.name column) with
  | some index =>
      let rows := t.rows.map fun row => if Table.hasKey row key then row.set index value else row
      return db.replace { t with rows }
  | none => throw (.noColumn column)

/-- The tables that the columns of a table refer to have to exist. -/
def requireParents (db : Database) (t : Table) : Except Failure Unit :=
  (t.columns.filterMap Column.parent).forM fun name => discard (db.require name)

/-- Removes the row with the key, if there is one and nothing refers to it. -/
def delete (db : Database) (name : String) (key : Int64) : Except Failure Database := do
  let t ← db.require name
  db.writable
  if db.checksReferences then db.requireParents t
  if db.checksReferences ∧ (t.find? key).isSome ∧ db.isReferred name key then
    throw (.violated (.reference name))
  return db.replace { t with rows := t.rows.filter fun row => !Table.hasKey row key }

/-- A table that rows of others refer to cannot go while references are checked. -/
def drop (db : Database) (name : String) : Except Failure Database := do
  let t ← db.require name
  db.writable
  let others := { db with tables := db.tables.filter fun u => !sameName u.name name }
  let isReferred := t.rows.any fun row =>
    match row.head? with
    | some (.integer key) => others.isReferred name key
    | _ => false
  if db.checksReferences ∧ isReferred then throw (.violated (.reference name))
  return others

end Database

end Criteria.Sql
