import Criteria.Proofs.Alignment
import Criteria.Proofs.Form

namespace Criteria

def Scalar.asText (s : Scalar) : Scalar :=
  .text s.canonical

mutual
/-- Forgets the connector before the first entry of every sequence. -/
def Value.unled : Value → Value
  | .scalar s => .scalar s
  | .list items => .list items
  | .subquery table query => .subquery table query.unled

def Query.unled : Query → Query
  | ⟨entries, projection, orderings, limit⟩ =>
      ⟨Entry.unled entries, projection, orderings, limit⟩

def Condition.unled : Condition → Condition
  | ⟨column, op, value⟩ => ⟨column, op, value.unled⟩

def Node.unled : Node → Node
  | .condition condition => .condition condition.unled
  | .group entries => .group (Entry.unled entries)

def Entry.unled : List Entry → List Entry
  | [] => []
  | ⟨_, node⟩ :: rest => ⟨.and, node.unled⟩ :: Entry.followingUnled rest

def Entry.followingUnled : List Entry → List Entry
  | [] => []
  | ⟨connector, node⟩ :: rest => ⟨connector, node.unled⟩ :: Entry.followingUnled rest
end

def Value.outline (value : Value) : Value :=
  (value.mapScalars .asText).unled

def Node.outline (node : Node) : Node :=
  (node.mapScalars .asText).unled

def Entry.outline (entry : Entry) : Entry :=
  ⟨entry.connector, entry.node.outline⟩

/-- The tree without its first connectors and with the texts of its values. -/
def Entry.outlines (entries : List Entry) : List Entry :=
  Entry.unled (Entry.mapScalars .asText entries)

theorem Entry.followingUnled_mapScalars (entries : List Entry) :
    Entry.followingUnled (Entry.mapScalars .asText entries) = entries.map Entry.outline := by
  induction entries with
  | nil => rfl
  | cons entry rest induction =>
      obtain ⟨connector, node⟩ := entry
      rw [Entry.mapScalars, Entry.followingUnled, induction]
      rfl

theorem Entry.outlines_cons (entry : Entry) (rest : List Entry) :
    Entry.outlines (entry :: rest) = ⟨.and, entry.node.outline⟩ :: rest.map Entry.outline := by
  obtain ⟨connector, node⟩ := entry
  rw [Entry.outlines, Entry.mapScalars, Entry.unled, Entry.followingUnled_mapScalars]
  rfl

mutual
theorem Value.clause_unled (symbol : String) :
    ∀ value : Value, value.unled.clause symbol = value.clause symbol
  | .scalar s => rfl
  | .list items => rfl
  | .subquery table query => by
      rw [Value.unled, Value.clause, Value.clause, Query.selectClause_unled table query]

theorem Query.selectClause_unled (table : String) :
    ∀ q : Query, q.unled.selectClause table = q.selectClause table
  | ⟨entries, projection, orderings, limit⟩ => by
      have inner := Entry.joinedClause_unled entries
      rw [Query.unled, Query.selectClause, Query.selectClause, inner]
      match entries with
      | [] => rfl
      | ⟨_, _⟩ :: _ => rfl

theorem Node.clause_unled : ∀ node : Node, node.unled.clause = node.clause
  | .condition ⟨column, op, value⟩ => by
      rw [Node.unled, Condition.unled, Node.clause, Node.clause, Condition.clause,
        Condition.clause, Value.clause_unled op.symbol value]
  | .group entries => by
      rw [Node.unled, Node.clause, Node.clause, Entry.joinedClause_unled entries]

theorem Entry.joinedClause_unled :
    ∀ entries : List Entry,
      Entry.joinedClause (Entry.unled entries) = Entry.joinedClause entries
  | [] => rfl
  | ⟨_, node⟩ :: rest => by
      rw [Entry.unled, Entry.joinedClause, Entry.joinedClause, Node.clause_unled node,
        Entry.followingClause_unled rest]

theorem Entry.followingClause_unled :
    ∀ entries : List Entry,
      Entry.followingClause (Entry.followingUnled entries) = Entry.followingClause entries
  | [] => rfl
  | ⟨connector, node⟩ :: rest => by
      rw [Entry.followingUnled, Entry.followingClause, Entry.followingClause,
        Node.clause_unled node, Entry.followingClause_unled rest]
end

theorem Entry.joinedClause_outlines (entries : List Entry) :
    Entry.joinedClause (Entry.outlines entries) = Entry.joinedClause entries := by
  rw [Entry.outlines, Entry.joinedClause_unled]
  apply Clause.ext
  · rw [Entry.selection_mapScalars]
  · rw [Entry.arguments_joinedClause, Entry.arguments_joinedClause, Entry.scalars_mapScalars,
      List.map_map]
    rfl

end Criteria
