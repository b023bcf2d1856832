import Criteria.Query

namespace Criteria

/-- The text that selects rows, with a `?` for every value, and the texts of the values in the order
of their places. -/
structure Clause where
  selection : String
  arguments : List String
  deriving DecidableEq

namespace Clause

def empty : Clause :=
  ⟨"", []⟩

def literal (text : String) : Clause :=
  ⟨text, []⟩

def placeholder (argument : String) : Clause :=
  ⟨"?", [argument]⟩

def append (c d : Clause) : Clause :=
  ⟨c.selection ++ d.selection, c.arguments ++ d.arguments⟩

instance : Append Clause := ⟨append⟩

@[simp] theorem selection_append (c d : Clause) :
    (c ++ d).selection = c.selection ++ d.selection := rfl

@[simp] theorem arguments_append (c d : Clause) :
    (c ++ d).arguments = c.arguments ++ d.arguments := rfl

@[simp] theorem selection_literal (text : String) : (literal text).selection = text := rfl

@[simp] theorem arguments_literal (text : String) : (literal text).arguments = [] := rfl

@[simp] theorem selection_placeholder (argument : String) :
    (placeholder argument).selection = "?" := rfl

@[simp] theorem arguments_placeholder (argument : String) :
    (placeholder argument).arguments = [argument] := rfl

theorem ext {c d : Clause} (selection : c.selection.toList = d.selection.toList)
    (arguments : c.arguments = d.arguments) : c = d := by
  cases c
  cases d
  exact congr (congrArg Clause.mk (String.toList_inj.mp selection)) arguments

theorem append_assoc (c d e : Clause) : c ++ d ++ e = c ++ (d ++ e) := by
  show Clause.mk _ _ = Clause.mk _ _
  simp [String.append_assoc]

@[simp] theorem empty_append (c : Clause) : empty ++ c = c := by
  apply ext <;> simp [empty]

@[simp] theorem append_empty (c : Clause) : c ++ empty = c := by
  apply ext <;> simp [empty]

theorem literal_append (s t : String) (u : Clause) :
    literal (s ++ t) ++ u = literal s ++ (literal t ++ u) := by
  apply ext <;> simp

def places : List Scalar → Clause
  | [] => empty
  | [s] => placeholder s.canonical
  | s :: t :: rest => placeholder s.canonical ++ literal "," ++ places (t :: rest)

def isEmpty (c : Clause) : Bool :=
  c.selection.isEmpty

end Clause

/-! Rendering. A group alone is put in parentheses; a negated operator puts `NOT` in front of its
comparison. -/

def SortKey.orderClause (keys : List SortKey) : Clause :=
  match orderText? keys with
  | some text => Clause.literal (" ORDER BY " ++ text)
  | none => Clause.empty

def limitClause : Option UInt64 → Clause
  | some n => Clause.literal (" LIMIT " ++ toString n.toNat)
  | none => Clause.empty

mutual
def Value.clause (symbol : String) : Value → Clause
  | .scalar s => .literal (" " ++ symbol ++ " ") ++ .placeholder s.canonical
  | .list items => .literal " IN(" ++ .places items ++ .literal ")"
  | .subquery table query => .literal " IN (" ++ query.selectClause table ++ .literal ")"

def Query.selectClause (table : String) : Query → Clause
  | ⟨entries, projection, orderings, limit⟩ =>
      .literal ("SELECT " ++ projection.getD "*" ++ " FROM " ++ table) ++
        (if entries.isEmpty then .empty else .literal " WHERE " ++ Entry.joinedClause entries) ++
        SortKey.orderClause orderings ++ limitClause limit

def Condition.clause : Condition → Clause
  | ⟨column, op, value⟩ =>
      .literal ((if op.negated then "NOT " else "") ++ column) ++ value.clause op.symbol

def Node.clause : Node → Clause
  | .condition condition => condition.clause
  | .group entries => .literal "(" ++ Entry.joinedClause entries ++ .literal ")"

def Entry.joinedClause : List Entry → Clause
  | [] => .empty
  | ⟨_, node⟩ :: rest => node.clause ++ Entry.followingClause rest

def Entry.followingClause : List Entry → Clause
  | [] => .empty
  | ⟨connector, node⟩ :: rest =>
      .literal (" " ++ connector.keyword ++ " ") ++ node.clause ++ Entry.followingClause rest
end

namespace Query

def compile (q : Query) : Clause :=
  Entry.joinedClause q.entries

def orderText? (q : Query) : Option String :=
  SortKey.orderText? q.orderings

end Query

end Criteria
