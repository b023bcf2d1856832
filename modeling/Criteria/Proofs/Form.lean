import Criteria.Clause
import Criteria.Proofs.Parts

namespace Criteria

mutual
def Value.mapScalars (f : Scalar → Scalar) : Value → Value
  | .scalar s => .scalar (f s)
  | .list items => .list (items.map f)
  | .subquery table query => .subquery table (query.mapScalars f)

def Query.mapScalars (f : Scalar → Scalar) : Query → Query
  | ⟨entries, projection, orderings, limit⟩ =>
      ⟨Entry.mapScalars f entries, projection, orderings, limit⟩

def Condition.mapScalars (f : Scalar → Scalar) : Condition → Condition
  | ⟨column, op, value⟩ => ⟨column, op, value.mapScalars f⟩

def Node.mapScalars (f : Scalar → Scalar) : Node → Node
  | .condition condition => .condition (condition.mapScalars f)
  | .group entries => .group (Entry.mapScalars f entries)

def Entry.mapScalars (f : Scalar → Scalar) : List Entry → List Entry
  | [] => []
  | ⟨connector, node⟩ :: rest => ⟨connector, node.mapScalars f⟩ :: Entry.mapScalars f rest
end

variable (f : Scalar → Scalar)

@[simp] theorem Query.entries_mapScalars (q : Query) :
    (q.mapScalars f).entries = Entry.mapScalars f q.entries := by
  cases q
  rfl

@[simp] theorem Query.orderings_mapScalars (q : Query) :
    (q.mapScalars f).orderings = q.orderings := by
  cases q
  rfl

@[simp] theorem Query.limit_mapScalars (q : Query) : (q.mapScalars f).limit = q.limit := by
  cases q
  rfl

@[simp] theorem Entry.isEmpty_mapScalars (entries : List Entry) :
    (Entry.mapScalars f entries).isEmpty = entries.isEmpty := by
  cases entries with
  | nil => rfl
  | cons entry rest =>
      cases entry
      rfl

theorem Clause.selection_places_map (items : List Scalar) :
    (Clause.places (items.map f)).selection = (Clause.places items).selection := by
  fun_induction Clause.places items with
  | case1 => rfl
  | case2 s => rfl
  | case3 s t rest induction => simpa [Clause.places] using induction

mutual
theorem Value.selection_mapScalars (symbol : String) :
    ∀ value : Value,
      ((value.mapScalars f).clause symbol).selection = (value.clause symbol).selection
  | .scalar s => rfl
  | .list items => by
      simp [Value.mapScalars, Value.clause, Clause.selection_places_map f items]
  | .subquery table query => by
      simp [Value.mapScalars, Value.clause, Query.selectClause_mapScalars table query]

theorem Query.selectClause_mapScalars (table : String) :
    ∀ q : Query,
      ((q.mapScalars f).selectClause table).selection = (q.selectClause table).selection
  | ⟨entries, projection, orderings, limit⟩ => by
      have inner := Entry.selection_mapScalars entries
      rw [Query.mapScalars, Query.selectClause, Query.selectClause, Entry.isEmpty_mapScalars]
      split <;> simp [inner]

theorem Node.selection_mapScalars :
    ∀ node : Node, (node.mapScalars f).clause.selection = node.clause.selection
  | .condition ⟨column, op, value⟩ => by
      simp [Node.mapScalars, Condition.mapScalars, Node.clause, Condition.clause,
        Value.selection_mapScalars op.symbol value]
  | .group entries => by
      simp [Node.mapScalars, Node.clause, Entry.selection_mapScalars entries]

theorem Entry.selection_mapScalars :
    ∀ entries : List Entry,
      (Entry.joinedClause (Entry.mapScalars f entries)).selection =
        (Entry.joinedClause entries).selection
  | [] => rfl
  | ⟨_, node⟩ :: rest => by
      simp [Entry.mapScalars, Entry.joinedClause, Node.selection_mapScalars node,
        Entry.following_mapScalars rest]

theorem Entry.following_mapScalars :
    ∀ entries : List Entry,
      (Entry.followingClause (Entry.mapScalars f entries)).selection =
        (Entry.followingClause entries).selection
  | [] => rfl
  | ⟨_, node⟩ :: rest => by
      simp [Entry.mapScalars, Entry.followingClause, Node.selection_mapScalars node,
        Entry.following_mapScalars rest]
end

mutual
theorem Value.scalars_mapScalars :
    ∀ value : Value, (value.mapScalars f).scalars = value.scalars.map f
  | .scalar s => rfl
  | .list items => rfl
  | .subquery _ ⟨entries, _, _, _⟩ => by
      simp [Value.mapScalars, Query.mapScalars, Value.scalars, Query.scalars,
        Entry.scalars_mapScalars entries]

theorem Node.scalars_mapScalars :
    ∀ node : Node, (node.mapScalars f).scalars = node.scalars.map f
  | .condition ⟨_, _, value⟩ => by
      simp [Node.mapScalars, Condition.mapScalars, Node.scalars, Condition.scalars,
        Value.scalars_mapScalars value]
  | .group entries => by
      simp [Node.mapScalars, Node.scalars, Entry.scalars_mapScalars entries]

theorem Entry.scalars_mapScalars :
    ∀ entries : List Entry,
      Entry.scalars (Entry.mapScalars f entries) = (Entry.scalars entries).map f
  | [] => rfl
  | ⟨_, node⟩ :: rest => by
      simp [Entry.mapScalars, Entry.scalars, Node.scalars_mapScalars node,
        Entry.scalars_mapScalars rest]
end

/-! What is left of a query when its values are forgotten. -/

def Query.form (q : Query) : Query :=
  q.mapScalars fun _ => .bool false

namespace Query

variable {q r : Query}

theorem selection_of_form (alike : q.form = r.form) :
    q.compile.selection = r.compile.selection := by
  have left := Entry.selection_mapScalars (fun _ => .bool false) q.entries
  have right := Entry.selection_mapScalars (fun _ => .bool false) r.entries
  have same := congrArg Query.entries alike
  rw [form, form, entries_mapScalars, entries_mapScalars] at same
  rw [compile, compile, ← left, ← right, same]

theorem length_scalars_of_form (alike : q.form = r.form) :
    (Entry.scalars q.entries).length = (Entry.scalars r.entries).length := by
  have same := congrArg (fun query => (Entry.scalars query.entries).length) alike
  simpa [form, Entry.scalars_mapScalars] using same

theorem orderings_of_form (alike : q.form = r.form) : q.orderings = r.orderings := by
  simpa [form] using congrArg Query.orderings alike

theorem limit_of_form (alike : q.form = r.form) : q.limit = r.limit := by
  simpa [form] using congrArg Query.limit alike

end Query

end Criteria
