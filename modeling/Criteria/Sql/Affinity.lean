import Criteria.Sql.Datum
import Criteria.Sql.Token
import Criteria.Sql.Truth

namespace Criteria.Sql

inductive Affinity
  | blob
  | text
  | numeric
  | integer
  | real
  deriving DecidableEq

namespace Affinity

def contains (word : List Char) : List Char → Bool
  | [] => word.isEmpty
  | c :: rest => word.isPrefixOf (c :: rest) || contains word rest

/-- The affinity of a column by its declared type: the first of these rules that applies. -/
def ofDeclared (type : String) : Affinity :=
  let letters := type.toList.map Char.toUpper
  let names (word : String) : Bool := contains word.toList letters
  if names "INT" then integer
  else if names "CHAR" || names "CLOB" || names "TEXT" then text
  else if letters.isEmpty || names "BLOB" then blob
  else if names "REAL" || names "FLOA" || names "DOUB" then real
  else numeric

def isNumeric : Affinity → Bool
  | blob => false
  | text => false
  | _ => true

/-- A number column has its value and what it is compared with read as numbers. -/
def convert (affinity : Affinity) (d : Datum) : Datum :=
  if affinity.isNumeric then d.toNumber else d

/-- Of two columns, one that holds numbers decides. -/
def common (a b : Affinity) : Affinity :=
  if a.isNumeric || b.isNumeric then numeric else blob

end Affinity

def Relation.holds : Relation → Ordering → Bool
  | .eq, o => o.isEq
  | .ge, o => o.isGE
  | .le, o => o.isLE
  | .gt, o => o.isGT
  | .lt, o => o.isLT

namespace Datum

/-- A comparison with a null is unknown. -/
def related (relation : Relation) (a b : Datum) : Truth :=
  if a = null ∨ b = null then .unknown
  else .ofBool (relation.holds (a.order b))

/-- The value that is bound to a placeholder: a text, or a null where nothing is. -/
def ofArgument : Option String → Datum
  | some s => ofString s
  | none => null

end Datum

end Criteria.Sql
