import Criteria.Op
import Criteria.Text.Quoted

namespace Criteria

inductive ShapeFault
  | noProjection
  | notMembers (kind : String)
  | notSingle (kind : String)
  deriving DecidableEq

namespace ShapeFault

def reason : ShapeFault → String
  | noProjection => "subquery has no projection; call select() on it"
  | notMembers kind => "expected a list or a subquery, got " ++ kind
  | notSingle kind => kind ++ " values are only valid for IN and NOT_IN"

end ShapeFault

structure StorageError where
  message : String
  source : Option String
  deriving DecidableEq

inductive MappingError
  | missingColumn (column : String)
  | typeMismatch (column expected actual : String)
  | invalidValue (column reason : String)
  deriving DecidableEq

namespace MappingError

def message : MappingError → String
  | missingColumn column => "column '" ++ column ++ "' missing from row"
  | typeMismatch column expected actual =>
      "column '" ++ column ++ "': expected " ++ expected ++ ", got " ++ actual
  | invalidValue column reason => "column '" ++ column ++ "': " ++ reason

end MappingError

inductive QueryError
  | invalidOperator (op : Op) (fault : ShapeFault)
  | invalidColumn (column : String)
  | invalidValue (column reason : String)
  | storageUnavailable (error : StorageError)
  | mapping (error : MappingError)
  deriving DecidableEq

namespace QueryError

def refusal (op : Op) (reason : String) : String :=
  "operator '" ++ op.name ++ "' cannot take this value: " ++ reason

def message : QueryError → String
  | invalidOperator op fault => refusal op fault.reason
  | invalidColumn column => "invalid column name: " ++ Text.quoted column
  | invalidValue column reason => "invalid value for column '" ++ column ++ "': " ++ reason
  | storageUnavailable error => "storage unavailable: " ++ error.message
  | mapping error => "row mapping failed: " ++ error.message

/-- The wording of an error, then of what caused it, down to the first cause. -/
def chain (error : QueryError) : List String :=
  error.message ::
    match error with
    | storageUnavailable cause => cause.message :: cause.source.toList
    | mapping cause => [cause.message]
    | _ => []

end QueryError

end Criteria
