import Criteria.Sql.Syntax
import Criteria.Sql.Table

namespace Criteria.Sql

/-- The order in which the rows of a table are read, which is the engine's own for each selection.
It shows wherever the sort keys leave rows equal: in which of them is listed first, and in which of
them a limit keeps. -/
structure Plan where
  visit : Select → Table → List (List Datum)
  visit_perm : ∀ select t, (visit select t).Perm t.rows

/-- The rows in the order of the index of a column. -/
def Table.indexed (t : Table) (index : Nat) : List (List Datum) :=
  t.rows.mergeSort fun a b => ((a.getD index .null).order (b.getD index .null)).isLE

/-- The column whose index is searched for the rows: a unique one that the condition compares. -/
def Select.searched? (select : Select) (t : Table) : Option Nat :=
  match select.condition with
  | some (.compare column _ _) =>
      t.columns.findIdx? fun c => c.unique && sameName c.name column
  | _ => none

/-- Rows come in the order of the table, or in that of an index that is searched for them. -/
def Plan.indexed : Plan where
  visit select t :=
    match select.searched? t with
    | some index => t.indexed index
    | none => t.rows
  visit_perm select t := by
    cases select.searched? t with
    | some index => exact List.mergeSort_perm _ _
    | none => exact .refl _

end Criteria.Sql
