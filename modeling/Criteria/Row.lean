import Criteria.Binary64.Rounding
import Criteria.Error

namespace Criteria

instance instDecidableEqBytes : DecidableEq ByteArray :=
  ByteArray.instDecidableEq

inductive Cell
  | null
  | integer (value : Int64)
  | real (value : Binary64)
  | text (value : String)
  | blob (bytes : ByteArray)
  deriving DecidableEq

namespace Cell

def typeName : Cell → String
  | null => "null"
  | integer _ => "integer"
  | real _ => "real"
  | text _ => "text"
  | blob _ => "blob"

end Cell

/-- Column names and cells. Neither list has to be as long as the other. -/
structure Row where
  columns : List String
  cells : List Cell
  deriving DecidableEq

namespace Row

def ofPairs (pairs : List (String × Cell)) : Row :=
  ⟨pairs.map Prod.fst, pairs.map Prod.snd⟩

def size (row : Row) : Nat :=
  row.cells.length

def isEmpty (row : Row) : Bool :=
  row.cells.isEmpty

/-- The cell in the place of the first column of that name. -/
def get? (row : Row) (column : String) : Option Cell :=
  (row.columns.idxOf? column).bind (row.cells[·]?)

def cell (row : Row) (column : String) : Except MappingError Cell :=
  match row.get? column with
  | some cell => .ok cell
  | none => .error (.missingColumn column)

def mismatch (column expected : String) (actual : Cell) : MappingError :=
  .typeMismatch column expected actual.typeName

def optionalInteger (row : Row) (column : String) : Except MappingError (Option Int64) := do
  match ← row.cell column with
  | .null => .ok none
  | .integer n => .ok (some n)
  | other => .error (mismatch column "integer" other)

def integer (row : Row) (column : String) : Except MappingError Int64 := do
  match ← row.optionalInteger column with
  | some n => .ok n
  | none => .error (mismatch column "integer" .null)

/-- An integer is read as the nearest real. -/
def real (row : Row) (column : String) : Except MappingError Binary64 := do
  match ← row.cell column with
  | .real x => .ok x
  | .integer n => .ok (.ofInt n.toInt)
  | other => .error (mismatch column "real" other)

/-- Truth values are the integers 0 and 1. -/
def boolean (row : Row) (column : String) : Except MappingError Bool := do
  match ← row.cell column with
  | .integer n =>
      if n = 0 then .ok false
      else if n = 1 then .ok true
      else .error (.invalidValue column (toString n.toInt ++ " is not a boolean"))
  | other => .error (mismatch column "integer" other)

def optionalText (row : Row) (column : String) : Except MappingError (Option String) := do
  match ← row.cell column with
  | .null => .ok none
  | .text s => .ok (some s)
  | other => .error (mismatch column "text" other)

def text (row : Row) (column : String) : Except MappingError String := do
  match ← row.optionalText column with
  | some s => .ok s
  | none => .error (mismatch column "text" .null)

end Row

end Criteria
