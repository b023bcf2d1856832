import Criteria.Op
import Criteria.Scalar
import Criteria.SortKey

namespace Criteria

inductive Connector
  | and
  | or
  deriving DecidableEq

namespace Connector

def keyword : Connector → String
  | and => "AND"
  | or => "OR"

end Connector

mutual
inductive Value
  | scalar (scalar : Scalar)
  | list (items : List Scalar)
  | subquery (table : String) (query : Query)

structure Condition where
  column : String
  op : Op
  value : Value

inductive Node
  | condition (condition : Condition)
  | group (entries : List Entry)

structure Entry where
  connector : Connector
  node : Node

structure Query where
  entries : List Entry
  projection : Option String
  orderings : List SortKey
  limit : Option UInt64
end

namespace Query

def empty : Query :=
  ⟨[], none, [], none⟩

instance : Inhabited Query := ⟨empty⟩

def isEmpty (q : Query) : Bool :=
  q.entries.isEmpty

def push (q : Query) (connector : Connector) (condition : Condition) : Query :=
  { q with entries := q.entries ++ [⟨connector, .condition condition⟩] }

/-- A group brings its entries alone. Without entries it brings nothing. -/
def pushGroup (q : Query) (connector : Connector) (group : Query) : Query :=
  if group.isEmpty then q
  else { q with entries := q.entries ++ [⟨connector, .group group.entries⟩] }

def andGroup (q : Query) (group : Query) : Query :=
  q.pushGroup .and group

def orGroup (q : Query) (group : Query) : Query :=
  q.pushGroup .or group

def select (q : Query) (column : String) : Query :=
  { q with projection := some column }

def orderBy (q : Query) (column : String) (direction : Direction) : Query :=
  { q with orderings := q.orderings ++ [⟨column, direction⟩] }

def orderAsc (q : Query) (column : String) : Query :=
  q.orderBy column .ascending

def orderDesc (q : Query) (column : String) : Query :=
  q.orderBy column .descending

def withLimit (q : Query) (n : UInt64) : Query :=
  { q with limit := some n }

end Query

namespace Value

def kind : Value → String
  | scalar s => s.typeName
  | list _ => "list"
  | subquery _ _ => "subquery"

end Value

/-! Equality of structure. Floats are compared as numbers, so it is not the identity of queries. -/

def Scalar.sameList : List Scalar → List Scalar → Bool
  | [], [] => true
  | s :: ss, t :: ts => s.same t && sameList ss ts
  | _, _ => false

mutual
def Value.same : Value → Value → Bool
  | .scalar s, .scalar t => s.same t
  | .list ss, .list ts => Scalar.sameList ss ts
  | .subquery a q, .subquery b r => a == b && q.same r
  | _, _ => false

def Condition.same : Condition → Condition → Bool
  | ⟨c, o, v⟩, ⟨d, p, w⟩ => c == d && o == p && v.same w

def Node.same : Node → Node → Bool
  | .condition c, .condition d => c.same d
  | .group es, .group fs => Entry.sameList es fs
  | _, _ => false

def Entry.same : Entry → Entry → Bool
  | ⟨c, n⟩, ⟨d, m⟩ => c == d && n.same m

def Entry.sameList : List Entry → List Entry → Bool
  | [], [] => true
  | e :: es, f :: fs => e.same f && Entry.sameList es fs
  | _, _ => false

def Query.same : Query → Query → Bool
  | ⟨es, p, os, l⟩, ⟨fs, r, ps, m⟩ =>
      Entry.sameList es fs && p == r && os == ps && l == m
end

end Criteria
