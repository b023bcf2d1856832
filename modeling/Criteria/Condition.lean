import Criteria.Error
import Criteria.Query
import Criteria.Text.Blank

namespace Criteria

namespace Value

/-- Membership takes a list or a subquery with a projection, any other operator a single value. -/
def shapeFault? (op : Op) (value : Value) : Option ShapeFault :=
  match op.isMembership, value with
  | true, .list _ => none
  | true, .subquery _ query => if query.projection.isSome then none else some .noProjection
  | true, .scalar s => some (.notMembers s.typeName)
  | false, .scalar _ => none
  | false, value => some (.notSingle value.kind)

/-- The numbers of a subquery have been checked with its own conditions. -/
def isFinite : Value → Bool
  | .scalar s => s.isFinite
  | .list items => items.all Scalar.isFinite
  | .subquery _ _ => true

end Value

namespace Condition

/-- A condition is checked when it is made: its column first, then the shape of its value, then the
numbers in it. The column is kept as it is given, outer white space included. -/
def make (column : String) (op : Op) (value : Value) : Except QueryError Condition :=
  if Text.isBlank column then .error (.invalidColumn column)
  else
    match value.shapeFault? op with
    | some fault => .error (.invalidOperator op fault)
    | none =>
        if value.isFinite then .ok ⟨column, op, value⟩
        else .error (.invalidValue column "float is not finite")

end Condition

namespace Query

def add (q : Query) (connector : Connector) (column : String) (op : Op) (value : Value) :
    Except QueryError Query :=
  (Condition.make column op value).map (q.push connector)

def and (q : Query) (column : String) (op : Op) (value : Value) : Except QueryError Query :=
  q.add .and column op value

def or (q : Query) (column : String) (op : Op) (value : Value) : Except QueryError Query :=
  q.add .or column op value

def andEq (q : Query) (column : String) (value : Value) : Except QueryError Query :=
  q.and column (.plain .eq) value

def orEq (q : Query) (column : String) (value : Value) : Except QueryError Query :=
  q.or column (.plain .eq) value

def andLike (q : Query) (column : String) (pattern : String) : Except QueryError Query :=
  q.and column (.plain .like) (.scalar (.text pattern))

def andIn (q : Query) (column : String) (items : List Scalar) : Except QueryError Query :=
  q.and column (.plain .member) (.list items)

def orIn (q : Query) (column : String) (items : List Scalar) : Except QueryError Query :=
  q.or column (.plain .member) (.list items)

end Query

end Criteria
