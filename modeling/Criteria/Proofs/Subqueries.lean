import Criteria.Proofs.Asking

namespace Criteria

theorem Query.selectClause_eq_statement {q : Query} {projection : String}
    (projected : q.projection = some projection) (table : String) :
    q.selectClause table =
      ⟨(q.request table [projection] q.limit).statement, q.compile.arguments⟩ := by
  have written : q.selectClause table =
      Clause.select [projection] table (Entry.whereClause q.entries) q.orderings q.limit := by
    rw [selectClause_eq_select, projected, Option.toList_some]
  rw [written, statement_request, ← arguments_select q table [projection] q.limit]

namespace Condition

theorem projection_of_wellFormed {column table : String} {op : Op} {q : Query}
    (formed : (Condition.mk column op (.subquery table q)).WellFormed) :
    ∃ projection, q.projection = some projection := by
  rw [WellFormed, Value.WellFormed] at formed
  exact Option.isSome_iff_exists.mp formed.2.2.1

/-- A condition on a subquery holds, as text and with its arguments, the statement that would ask a
store for the subquery's rows, a `WHERE` in the one exactly where there is one in the other. -/
theorem clause_eq_statement {condition : Condition} {table : String} {q : Query}
    (reachable : condition.Reachable) (asks : condition.value = .subquery table q) :
    ∃ projection, q.projection = some projection ∧
      condition.clause.selection =
        (if condition.op.negated then "NOT " else "") ++ condition.column ++ " IN (" ++
          Request.statement
            { table
              columns := [projection]
              selection := q.compile.selection
              arguments := q.compile.arguments
              orderBy := SortKey.orderText? q.orderings
              limit := q.limit } ++ ")" ∧
      condition.clause.arguments = q.compile.arguments := by
  have formed := (reachable_iff_wellFormed condition).mp reachable
  obtain ⟨column, op, value⟩ := condition
  obtain rfl : value = .subquery table q := asks
  obtain ⟨projection, projected⟩ := projection_of_wellFormed formed
  have inner := Query.selectClause_eq_statement projected table
  refine ⟨projection, projected, ?_, ?_⟩
  · simp only [clause, Value.clause, inner, Clause.selection_append, Clause.selection_literal,
      String.append_assoc]
    rfl
  · simp [clause, Value.clause, inner]

/-- The three latest lists that are no archives. -/
private def recent : Query :=
  ((Query.empty.select "_id").push .or ⟨"_id", ⟨.member, true⟩, .subquery "archives"
    ((Query.empty.select "list_id").orderBy "name" .ascending)⟩).orderDesc "_id" |>.withLimit 3

private theorem recent_reachable : recent.Reachable := by
  have archives : ((Query.empty.select "list_id").orderBy "name" .ascending).Reachable :=
    .orderBy _ _ (.select _ .empty)
  have kept := @Query.Reachable.push _ "_id" ⟨.member, true⟩ (.subquery "archives" _) _ .or
    (.select "_id" .empty) (.subquery "archives" archives) rfl
  exact (kept.orderDesc "_id").withLimit 3

theorem clause_eq_statement_recent :
    (Condition.mk "list_id" ⟨.member, true⟩ (.subquery "lists" recent)).Reachable ∧
      ∃ projection, recent.projection = some projection ∧
        (Condition.mk "list_id" ⟨.member, true⟩ (.subquery "lists" recent)).clause.selection =
          "NOT " ++ "list_id" ++ " IN (" ++
            (recent.request "lists" [projection] recent.limit).statement ++ ")" := by
  have reachable :
      (Condition.mk "list_id" ⟨.member, true⟩ (.subquery "lists" recent)).Reachable :=
    ⟨"list_id", ⟨.member, true⟩, _, .subquery "lists" recent_reachable, rfl⟩
  obtain ⟨projection, projected, text, _⟩ := clause_eq_statement reachable rfl
  exact ⟨reachable, projection, projected, text⟩

end Condition

end Criteria
