import Criteria.Query

namespace Criteria

mutual
/-- Columns, tables, projections and the columns of sort keys. -/
def Value.names : Value → List String
  | .scalar _ => []
  | .list _ => []
  | .subquery table query => table :: query.names

def Condition.names : Condition → List String
  | ⟨column, _, value⟩ => column :: value.names

def Node.names : Node → List String
  | .condition condition => condition.names
  | .group entries => Entry.names entries

def Entry.names : List Entry → List String
  | [] => []
  | ⟨_, node⟩ :: rest => node.names ++ Entry.names rest

def Query.names : Query → List String
  | ⟨entries, projection, orderings, _⟩ =>
      projection.toList ++ Entry.names entries ++ orderings.map SortKey.column
end

theorem Entry.mem_names {name : String} {entries : List Entry} :
    name ∈ Entry.names entries ↔ ∃ entry ∈ entries, name ∈ entry.node.names := by
  induction entries with
  | nil => simp [Entry.names]
  | cons entry rest induction =>
      obtain ⟨connector, node⟩ := entry
      simp [Entry.names, induction]

mutual
def Value.scalars : Value → List Scalar
  | .scalar s => [s]
  | .list items => items
  | .subquery _ query => query.scalars

def Condition.scalars : Condition → List Scalar
  | ⟨_, _, value⟩ => value.scalars

def Node.scalars : Node → List Scalar
  | .condition condition => condition.scalars
  | .group entries => Entry.scalars entries

def Entry.scalars : List Entry → List Scalar
  | [] => []
  | ⟨_, node⟩ :: rest => node.scalars ++ Entry.scalars rest

def Query.scalars : Query → List Scalar
  | ⟨entries, _, _, _⟩ => Entry.scalars entries
end

mutual
/-- A query's own limit comes last. -/
def Value.limits : Value → List UInt64
  | .scalar _ => []
  | .list _ => []
  | .subquery _ query => query.limits

def Condition.limits : Condition → List UInt64
  | ⟨_, _, value⟩ => value.limits

def Node.limits : Node → List UInt64
  | .condition condition => condition.limits
  | .group entries => Entry.limits entries

def Entry.limits : List Entry → List UInt64
  | [] => []
  | ⟨_, node⟩ :: rest => node.limits ++ Entry.limits rest

def Query.limits : Query → List UInt64
  | ⟨entries, _, _, limit⟩ => Entry.limits entries ++ limit.toList
end

theorem Entry.mem_limits {n : UInt64} {entries : List Entry} :
    n ∈ Entry.limits entries ↔ ∃ entry ∈ entries, n ∈ entry.node.limits := by
  induction entries with
  | nil => simp [Entry.limits]
  | cons entry rest induction =>
      obtain ⟨connector, node⟩ := entry
      simp [Entry.limits, induction]

theorem Query.limits_eq (q : Query) : q.limits = Entry.limits q.entries ++ q.limit.toList := by
  cases q
  rw [Query.limits]

/-! The conditions themselves. A subquery is part of its condition. -/

mutual
def Node.conditions : Node → List Condition
  | .condition condition => [condition]
  | .group entries => Entry.conditions entries

def Entry.conditions : List Entry → List Condition
  | [] => []
  | ⟨_, node⟩ :: rest => node.conditions ++ Entry.conditions rest
end

end Criteria
