import Criteria.Sql.Affinity

namespace Criteria.Sql

/-- Names are the same in either case of their letters. -/
def sameName (a b : String) : Bool :=
  a.toList.map Char.toLower == b.toList.map Char.toLower

structure Column where
  name : String
  affinity : Affinity
  required : Bool := false
  unique : Bool := false
  /-- The table whose keys the column refers to. -/
  parent : Option String := none
  deriving DecidableEq

/-- The rows of a table with keys have theirs in the first column and are ordered by them. The
largest key that was ever used is kept with the table. -/
structure Table where
  name : String
  columns : List Column
  rows : List (List Datum)
  lastKey : Option Int64 := none
  deriving DecidableEq

namespace Table

def hasKey (row : List Datum) (key : Int64) : Bool :=
  row.head? = some (.integer key)

def find? (t : Table) (key : Int64) : Option (List Datum) :=
  t.rows.find? (hasKey · key)

def place (row : List Datum) (key : Int64) : List (List Datum) → List (List Datum)
  | [] => [row]
  | first :: rest =>
      match first.head? with
      | some (.integer k) =>
          if key < k then row :: first :: rest else first :: place row key rest
      | _ => first :: place row key rest

end Table

end Criteria.Sql
