import Criteria.SortKey
import Criteria.Sql.Token

namespace Criteria.Sql

mutual
inductive Expr
  | compare (column : String) (relation : Relation) (argument : Option String)
  | like (column : String) (argument : Option String)
  | inList (column : String) (arguments : List (Option String))
  | inSelect (column : String) (select : Select)
  | not (operand : Expr)
  | and (left right : Expr)
  | or (left right : Expr)

/-- No columns stand for all of them. -/
structure Select where
  columns : List String
  table : String
  condition : Option Expr
  orderings : List SortKey
  limit : Option Nat
end

mutual
def Expr.limits : Expr → List Nat
  | .compare _ _ _ => []
  | .like _ _ => []
  | .inList _ _ => []
  | .inSelect _ select => select.limits
  | .not operand => operand.limits
  | .and left right => left.limits ++ right.limits
  | .or left right => left.limits ++ right.limits

def Expr.conditionLimits : Option Expr → List Nat
  | none => []
  | some condition => condition.limits

def Select.limits : Select → List Nat
  | ⟨_, _, condition, _, limit⟩ => Expr.conditionLimits condition ++ limit.toList
end

end Criteria.Sql
