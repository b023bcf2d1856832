import Criteria.Proofs.Alignment
import Criteria.Proofs.Asking
import Criteria.Proofs.Binary64.Text

namespace Criteria

namespace Request

def unfiltered (r : Request) : Request :=
  { r with selection := "" }

theorem statement_parts (r : Request) : ∃ before after,
    r.unfiltered.statement = before ++ after ∧
      r.statement =
        if r.selection = "" then before ++ after
        else before ++ " WHERE " ++ r.selection ++ after := by
  refine ⟨"SELECT " ++ (if r.columns.isEmpty then "*" else ", ".intercalate r.columns) ++
      " FROM " ++ r.table, r.orderBy.elim "" (" ORDER BY " ++ ·) ++
      r.limit.elim "" fun n => " LIMIT " ++ toString n.toNat, ?_, ?_⟩
  · unfold statement unfiltered
    cases r.orderBy <;> cases r.limit <;> simp [String.append_assoc]
  · unfold statement
    by_cases empty : r.selection = "" <;> cases r.orderBy <;> cases r.limit <;>
      simp [empty, String.append_assoc]

theorem statement_eq_unfiltered_iff (r : Request) :
    r.statement = r.unfiltered.statement ↔ r.selection = "" := by
  obtain ⟨before, after, bare, whole⟩ := r.statement_parts
  by_cases empty : r.selection = ""
  · simp [whole, bare, empty]
  · rw [whole, if_neg empty, bare]
    refine ⟨fun same => ?_, fun none => absurd none empty⟩
    have keyword : " WHERE ".length = 7 := rfl
    have lengths := congrArg String.length same
    simp only [String.length_append] at lengths
    omega

end Request

mutual
theorem Value.WellFormed.finite {op : Op} :
    ∀ {value : Value}, value.WellFormed op → ∀ s ∈ value.scalars, s.isFinite = true
  | .scalar s, formed => by
      rw [Value.WellFormed] at formed
      simpa [Value.scalars] using formed.2
  | .list items, formed => by
      rw [Value.WellFormed] at formed
      simpa [Value.scalars] using formed.2
  | .subquery _ ⟨entries, projection, orderings, limit⟩, formed => by
      rw [Value.WellFormed, Query.WellFormed] at formed
      rw [Value.scalars, Query.scalars]
      exact Entry.AllWellFormed.finite formed.2.2

theorem Node.WellFormed.finite :
    ∀ {node : Node}, node.WellFormed → ∀ s ∈ node.scalars, s.isFinite = true
  | .condition ⟨column, op, value⟩, formed => by
      rw [Node.WellFormed, Condition.WellFormed] at formed
      rw [Node.scalars, Condition.scalars]
      exact Value.WellFormed.finite formed.2
  | .group entries, formed => by
      rw [Node.WellFormed] at formed
      rw [Node.scalars]
      exact Entry.AllWellFormed.finite formed.2

theorem Entry.AllWellFormed.finite :
    ∀ {entries : List Entry}, Entry.AllWellFormed entries →
      ∀ s ∈ Entry.scalars entries, s.isFinite = true
  | [], _ => by simp [Entry.scalars]
  | ⟨_, node⟩ :: rest, formed => by
      rw [Entry.AllWellFormed] at formed
      rw [Entry.scalars]
      intro s member
      rcases List.mem_append.mp member with here | later
      · exact Node.WellFormed.finite formed.1 s here
      · exact Entry.AllWellFormed.finite formed.2 s later
end

theorem Scalar.eq_text_of_unreadable {s : Scalar} (finite : s.isFinite = true)
    (written : s.canonical ∈ Binary64.unreadable) : s = .text s.canonical := by
  cases s with
  | bool value => cases value <;> simp [canonical, Binary64.unreadable] at written
  | int n =>
      exact absurd written
        (Binary64.not_mem_unreadable fun _ => Binary64.isNumeral_of_mem_toString)
  | float x =>
      have infinite := x.text_mem_unreadable_iff.mp written
      simp [isFinite, infinite] at finite
  | text value => rfl
  | identity n =>
      exact absurd written
        (Binary64.not_mem_unreadable fun _ => Binary64.isNumeral_of_mem_toString)

namespace Query

theorem selection_compile_eq_empty_iff (q : Query) :
    q.compile.selection = "" ↔ q.isEmpty = true := by
  rw [compile, Entry.selection_eq_empty_iff, isEmpty, List.isEmpty_iff]

/-- Whatever steps made the query, its tree has no fault. So its clause is empty exactly where the
query has no condition, its statement has a `WHERE` everywhere else, and an argument that reads like
an infinity or like no number was given as text. -/
theorem faultless_of_reachable {q : Query} (reachable : q.Reachable) :
    q.WellFormed ∧
      (q.compile.selection = "" ↔ q.isEmpty = true) ∧
      (∀ table columns limit, ∃ before after,
        (q.request table columns limit).unfiltered.statement = before ++ after ∧
          (q.request table columns limit).statement =
            if q.isEmpty then before ++ after
            else before ++ " WHERE " ++ q.compile.selection ++ after) ∧
      (∀ table columns limit,
        (q.request table columns limit).statement =
            (q.request table columns limit).unfiltered.statement ↔ q.isEmpty = true) ∧
      q.compile.arguments = (Entry.scalars q.entries).map Scalar.canonical ∧
      ∀ s ∈ Entry.scalars q.entries, s.canonical ∈ Binary64.unreadable →
        s = .text s.canonical := by
  have formed := reachable.wellFormed
  refine ⟨formed, q.selection_compile_eq_empty_iff, fun table columns limit => ?_,
    fun table columns limit => ?_, Entry.arguments_joinedClause q.entries, fun s member => ?_⟩
  · obtain ⟨before, after, bare, whole⟩ := (q.request table columns limit).statement_parts
    refine ⟨before, after, bare, ?_⟩
    simpa only [request, q.selection_compile_eq_empty_iff] using whole
  · exact (q.request table columns limit).statement_eq_unfiltered_iff.trans
      q.selection_compile_eq_empty_iff
  · have finite := Entry.AllWellFormed.finite ((Query.wellFormed_iff q).mp formed) s member
    exact Scalar.eq_text_of_unreadable finite

private def edgeLists : Query :=
  (Query.empty.select "_id").push .and
    ⟨"ratio", .plain .member, .list [.float ⟨0x3ff8000000000000⟩, .text "inf.0"]⟩

private def edgeQuery : Query :=
  (Query.empty.push .or ⟨"name", .plain .eq, .scalar (.text "NaN.0")⟩).pushGroup .and
    ((Query.empty.push .and ⟨"done", .plain .eq, .scalar (.bool false)⟩).push .or
      ⟨"list_id", ⟨.member, true⟩, .subquery "lists" edgeLists⟩)

private theorem edgeQuery_reachable : edgeQuery.Reachable := by
  have lists := @Reachable.push _ "ratio" (.plain .member)
    (.list [.float ⟨0x3ff8000000000000⟩, .text "inf.0"]) _ .and (.select "_id" .empty) (.list _) rfl
  have named := @Reachable.push _ "name" (.plain .eq) (.scalar (.text "NaN.0")) _ .or .empty
    (.scalar _) rfl
  have done := @Reachable.push _ "done" (.plain .eq) (.scalar (.bool false)) _ .and .empty
    (.scalar _) rfl
  have listed := @Reachable.push _ "list_id" ⟨.member, true⟩ (.subquery "lists" edgeLists) _ .or
    done (.subquery "lists" lists) rfl
  exact named.pushGroup .and listed

theorem faultless_of_reachable_edge :
    edgeQuery.Reachable ∧ edgeQuery.WellFormed ∧ edgeQuery.compile.selection ≠ "" ∧
      (edgeQuery.request "tasks" ["_id"] (some 1)).statement ≠
        (edgeQuery.request "tasks" ["_id"] (some 1)).unfiltered.statement ∧
      Scalar.text "inf.0" ∈ Entry.scalars edgeQuery.entries ∧
      ∀ s ∈ Entry.scalars edgeQuery.entries, s.canonical ∈ Binary64.unreadable →
        s = .text s.canonical := by
  obtain ⟨formed, empty, _, filtered, _, texts⟩ := faultless_of_reachable edgeQuery_reachable
  have filled : ¬ edgeQuery.isEmpty = true := by decide
  exact ⟨edgeQuery_reachable, formed, filled ∘ empty.mp, filled ∘ (filtered _ _ _).mp,
    by decide, texts⟩

end Query

end Criteria
