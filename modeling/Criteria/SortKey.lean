namespace Criteria

inductive Direction
  | ascending
  | descending
  deriving DecidableEq

namespace Direction

def keyword : Direction → String
  | ascending => "ASC"
  | descending => "DESC"

instance : Inhabited Direction := ⟨ascending⟩

end Direction

structure SortKey where
  column : String
  direction : Direction
  deriving DecidableEq

namespace SortKey

def asc (column : String) : SortKey :=
  ⟨column, .ascending⟩

def desc (column : String) : SortKey :=
  ⟨column, .descending⟩

def text (key : SortKey) : String :=
  key.column ++ " " ++ key.direction.keyword

/-- Without keys there is no order to ask for. -/
def orderText? (keys : List SortKey) : Option String :=
  if keys.isEmpty then none else some (", ".intercalate (keys.map text))

end SortKey

end Criteria
