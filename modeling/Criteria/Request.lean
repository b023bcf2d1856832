namespace Criteria

structure Request where
  table : String
  columns : List String
  selection : String
  arguments : List String
  orderBy : Option String
  limit : Option UInt64
  deriving DecidableEq

namespace Request

/-- No columns ask for all of them. An order is written even when it is empty. -/
def statement (r : Request) : String :=
  "SELECT " ++ (if r.columns.isEmpty then "*" else ", ".intercalate r.columns) ++
    " FROM " ++ r.table ++
    (if r.selection.isEmpty then "" else " WHERE " ++ r.selection) ++
    (match r.orderBy with
      | some order => " ORDER BY " ++ order
      | none => "") ++
    (match r.limit with
      | some n => " LIMIT " ++ toString n.toNat
      | none => "")

end Request

end Criteria
