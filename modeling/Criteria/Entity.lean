import Criteria.Row

namespace Criteria

structure Entity (α : Type) where
  table : String
  idColumn : String
  columns : List String
  mapper : Row → Except MappingError α

namespace Entity

/-- The entity's names. The mapper does not show. -/
def describe (entity : Entity α) : String :=
  "EntityDescriptor \x7b table: " ++ Text.quoted entity.table ++
    ", id_column: " ++ Text.quoted entity.idColumn ++
    ", columns: " ++ Text.quotedList entity.columns ++ ", .. \x7d"

end Entity

inductive Accessor
  | cell
  | integer
  | optionalInteger
  | real
  | boolean
  | text
  | optionalText
  deriving DecidableEq

inductive Field
  | cell (value : Cell)
  | integer (value : Option Int64)
  | real (value : Binary64)
  | boolean (value : Bool)
  | text (value : Option String)
  deriving DecidableEq

namespace Accessor

def read (accessor : Accessor) (row : Row) (column : String) : Except MappingError Field :=
  match accessor with
  | cell => (row.cell column).map .cell
  | integer => (row.integer column).map fun n => .integer (some n)
  | optionalInteger => (row.optionalInteger column).map .integer
  | real => (row.real column).map .real
  | boolean => (row.boolean column).map .boolean
  | text => (row.text column).map fun s => .text (some s)
  | optionalText => (row.optionalText column).map .text

end Accessor

namespace Entity

/-- The first field that cannot be read decides the error. -/
def ofFields (table idColumn : String) (columns : List String)
    (fields : List (Accessor × String)) : Entity (List Field) where
  table := table
  idColumn := idColumn
  columns := columns
  mapper row := fields.mapM fun (accessor, column) => accessor.read row column

end Entity

end Criteria
