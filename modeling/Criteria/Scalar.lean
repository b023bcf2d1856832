import Criteria.Binary64.Digits

namespace Criteria

inductive Scalar
  | bool (value : Bool)
  | int (value : Int64)
  | float (value : Binary64)
  | text (value : String)
  | identity (value : Int64)
  deriving DecidableEq

namespace Scalar

/-- The text that is bound in the place of the value. -/
def canonical : Scalar → String
  | bool true => "1"
  | bool false => "0"
  | int n => toString n.toInt
  | float x => x.text
  | text s => s
  | identity n => toString n.toInt

def isFinite : Scalar → Bool
  | float x => x.isFinite
  | _ => true

def typeName : Scalar → String
  | bool _ => "bool"
  | int _ => "integer"
  | float _ => "float"
  | text _ => "text"
  | identity _ => "identity"

/-- Equality of values of one type; floats are equal as numbers. -/
def same : Scalar → Scalar → Bool
  | bool a, bool b => a == b
  | int m, int n => m == n
  | float x, float y => x.same y
  | text s, text t => s == t
  | identity m, identity n => m == n
  | _, _ => false

end Scalar

end Criteria
