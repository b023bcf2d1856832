import Criteria.Clause
import Criteria.Proofs.Reachable

namespace Criteria

/-- What entries write where they lead a sequence, or where others stand before them. -/
def Entry.addedClause (leading : Bool) (entries : List Entry) : Clause :=
  if leading then Entry.joinedClause entries else Entry.followingClause entries

theorem Entry.followingClause_append (first second : List Entry) :
    Entry.followingClause (first ++ second) =
      Entry.followingClause first ++ Entry.followingClause second := by
  induction first with
  | nil => simp [Entry.followingClause]
  | cons entry rest induction =>
      obtain ⟨connector, node⟩ := entry
      simp only [List.cons_append, Entry.followingClause, induction, Clause.append_assoc]

theorem Entry.joinedClause_append (first second : List Entry) :
    Entry.joinedClause (first ++ second) =
      Entry.joinedClause first ++ Entry.addedClause first.isEmpty second := by
  cases first with
  | nil => simp [Entry.joinedClause, Entry.addedClause]
  | cons entry rest =>
      obtain ⟨connector, node⟩ := entry
      simp only [List.cons_append, Entry.joinedClause, Entry.followingClause_append,
        Clause.append_assoc]
      rfl

/-- A call that goes on with a query. The other calls are made of these. -/
inductive Step
  | condition (connector : Connector) (column : String) (op : Op) (value : Value)
  | group (connector : Connector) (group : Query)
  | select (column : String)
  | orderBy (column : String) (direction : Direction)
  | withLimit (n : UInt64)

/-- The entry that the step adds, if it adds one. -/
def Step.entry? : Step → Option Entry
  | .condition connector column op value => some ⟨connector, .condition ⟨column, op, value⟩⟩
  | .group connector inner => if inner.isEmpty then none else some ⟨connector, .group inner.entries⟩
  | _ => none

namespace Query

def take (q : Query) : Step → Except QueryError Query
  | .condition connector column op value => q.add connector column op value
  | .group connector group => .ok (q.pushGroup connector group)
  | .select column => .ok (q.select column)
  | .orderBy column direction => .ok (q.orderBy column direction)
  | .withLimit n => .ok (q.withLimit n)

/-- Takes the steps in turn; the first that is refused ends it. -/
def extend (q : Query) : List Step → Except QueryError Query
  | [] => .ok q
  | step :: rest => (q.take step).bind (·.extend rest)

theorem eq_push_of_add {q r : Query} {connector : Connector} {column : String} {op : Op}
    {value : Value} (added : q.add connector column op value = .ok r) :
    r = q.push connector ⟨column, op, value⟩ := by
  obtain ⟨condition, made, pushed⟩ := made_of_add added
  rw [← pushed, Condition.eq_of_make made]

theorem entries_of_take {q r : Query} {step : Step} (taken : q.take step = .ok r) :
    r.entries = q.entries ++ step.entry?.toList := by
  cases step with
  | condition connector column op value =>
      rw [eq_push_of_add taken]
      rfl
  | group connector group =>
      have grouped : q.pushGroup connector group = r := Except.ok.inj taken
      rw [← grouped, pushGroup, Step.entry?]
      split <;> simp
  | select column => cases taken; simp [select, Step.entry?]
  | orderBy column direction => cases taken; simp [orderBy, Step.entry?]
  | withLimit n => cases taken; simp [withLimit, Step.entry?]

theorem entries_of_extend {q r : Query} {steps : List Step} (extended : q.extend steps = .ok r) :
    r.entries = q.entries ++ steps.filterMap Step.entry? := by
  induction steps generalizing q with
  | nil =>
      cases extended
      simp
  | cons step rest induction =>
      cases taken : q.take step with
      | error fault => simp [extend, taken, Except.bind] at extended
      | ok next =>
          have later : next.extend rest = .ok r := by
            simpa [extend, taken, Except.bind] using extended
          rw [induction later, entries_of_take taken]
          cases entry : step.entry? <;> simp [entry]

theorem compile_of_extend {q r : Query} {steps : List Step} (extended : q.extend steps = .ok r) :
    r.compile = q.compile ++ Entry.addedClause q.isEmpty (steps.filterMap Step.entry?) := by
  rw [compile, entries_of_extend extended, Entry.joinedClause_append]
  rfl

theorem compile_pushGroup_of_isEmpty {group : Query} (bare : group.isEmpty = true) (q : Query)
    (connector : Connector) : (q.pushGroup connector group).compile = q.compile := by
  rw [pushGroup, if_pos bare]

theorem compile_pushGroup {group : Query} (filled : group.isEmpty = false) (q : Query)
    (connector : Connector) :
    (q.pushGroup connector group).compile =
      q.compile ++ (if q.isEmpty then .empty else .literal (" " ++ connector.keyword ++ " ")) ++
        (.literal "(" ++ group.compile ++ .literal ")") := by
  rw [pushGroup, if_neg (by simp [filled]), compile, Entry.joinedClause_append]
  cases started : q.entries.isEmpty <;>
    simp [isEmpty, started, Entry.addedClause, Entry.joinedClause, Entry.followingClause,
      Node.clause, compile, Clause.append_assoc]

end Query

/-- Joins what was written apart; the connector before the first is left out. -/
def Clause.joined : List (Connector × Clause) → Clause
  | [] => .empty
  | (_, first) :: rest =>
      ⟨first.selection ++ String.join (rest.map fun (connector, c) =>
          " " ++ connector.keyword ++ " " ++ c.selection),
        first.arguments ++ rest.flatMap fun (_, c) => c.arguments⟩

mutual
/-- A condition is compiled as the only one of a query, a group in its parentheses. -/
def Node.alone : Node → Clause
  | .condition condition => (Query.empty.push .and condition).compile
  | .group entries => .literal "(" ++ Clause.joined (Entry.allAlone entries) ++ .literal ")"

def Entry.allAlone : List Entry → List (Connector × Clause)
  | [] => []
  | ⟨connector, node⟩ :: rest => (connector, node.alone) :: Entry.allAlone rest
end

mutual
theorem Node.alone_eq_clause : ∀ node : Node, node.alone = node.clause
  | .condition condition => by
      simp [Node.alone, Query.compile, Query.push, Query.empty, Entry.joinedClause,
        Entry.followingClause, Node.clause]
  | .group entries => by
      rw [Node.alone, Node.clause, Entry.joined_allAlone entries]

theorem Entry.joined_allAlone :
    ∀ entries : List Entry, Clause.joined (Entry.allAlone entries) = Entry.joinedClause entries
  | [] => rfl
  | ⟨_, node⟩ :: rest => by
      rw [Entry.allAlone, Entry.joinedClause, Node.alone_eq_clause node,
        ← Entry.following_allAlone rest]
      rfl

theorem Entry.following_allAlone :
    ∀ entries : List Entry,
      Clause.mk
          (String.join ((Entry.allAlone entries).map fun (connector, c) =>
            " " ++ connector.keyword ++ " " ++ c.selection))
          ((Entry.allAlone entries).flatMap fun (_, c) => c.arguments) =
        Entry.followingClause entries
  | [] => rfl
  | ⟨connector, node⟩ :: rest => by
      rw [Entry.followingClause, ← Entry.following_allAlone rest, Entry.allAlone,
        Node.alone_eq_clause node]
      apply Clause.ext <;> simp
end

namespace Query

/-- Steps that are taken only append to the clause, and what they append hangs on them alone and on
whether there was an entry before. A group comes in parentheses behind its connector, one without
entries leaves no trace, and the whole clause is that of its entries, compiled apart and joined. -/
theorem compile_appends :
    (∀ {q r : Query} {steps : List Step}, q.extend steps = .ok r →
      r.compile = q.compile ++ Entry.addedClause q.isEmpty (steps.filterMap Step.entry?) ∧
        q.compile.selection.toList <+: r.compile.selection.toList ∧
        q.compile.arguments <+: r.compile.arguments) ∧
      (∀ (q group : Query) (connector : Connector), group.isEmpty = false →
        (q.pushGroup connector group).compile.selection =
            (if q.isEmpty then "" else q.compile.selection ++ " " ++ connector.keyword ++ " ") ++
              "(" ++ group.compile.selection ++ ")" ∧
          (q.pushGroup connector group).compile.arguments =
            q.compile.arguments ++ group.compile.arguments) ∧
      (∀ (q group : Query) (connector : Connector), group.isEmpty = true →
        (q.pushGroup connector group).compile = q.compile) ∧
      ∀ q : Query, q.compile = Clause.joined (Entry.allAlone q.entries) := by
  refine ⟨fun {q r steps} extended => ?_, fun q group connector filled => ?_,
    fun q group connector bare => compile_pushGroup_of_isEmpty bare q connector,
    fun q => (Entry.joined_allAlone q.entries).symm⟩
  · have appended := compile_of_extend extended
    refine ⟨appended, ?_, ?_⟩
    · rw [appended, Clause.selection_append, String.toList_append]
      exact List.prefix_append _ _
    · rw [appended, Clause.arguments_append]
      exact List.prefix_append _ _
  · have grouped := compile_pushGroup filled q connector
    cases started : q.isEmpty with
    | true =>
        have none : q.compile = .empty := by
          rw [compile, List.isEmpty_iff.mp started, Entry.joinedClause]
        simp [grouped, started, none, Clause.empty, String.append_assoc]
    | false =>
        refine ⟨?_, by simp [grouped, started]⟩
        simp only [grouped, started, Bool.false_eq_true, if_false, Clause.selection_append,
          Clause.selection_literal, String.append_assoc]

private def openTasks : Query :=
  Query.empty.push .or ⟨"done", .plain .eq, .scalar (.bool false)⟩

/-- A group with a group in it, a setting, a group of nothing and a subquery. -/
private def narrowing : List Step :=
  [.group .and ((Query.empty.push .and ⟨"priority", .plain .ge, .scalar (.int 2)⟩).pushGroup .or
      (Query.empty.push .and ⟨"name", ⟨.like, true⟩, .scalar (.text "%?%")⟩)),
    .orderBy "priority" .descending, .group .or (Query.empty.withLimit 3),
    .condition .or "list_id" (.plain .member) (.subquery "lists"
      ((Query.empty.select "_id").push .and ⟨"name", .plain .eq, .scalar (.text "Home")⟩))]

theorem compile_appends_narrowing :
    ∃ r, openTasks.extend narrowing = .ok r ∧
      r.compile = openTasks.compile ++
        Entry.addedClause openTasks.isEmpty (narrowing.filterMap Step.entry?) ∧
      (openTasks.pushGroup .or r).compile.arguments = ["0", "0", "2", "%?%", "Home"] ∧
      r.compile.selection = "done = ? AND (priority >= ? OR (NOT name LIKE ?)) OR " ++
        "list_id IN (SELECT _id FROM lists WHERE name = ?)" := by
  obtain ⟨r, extended, arguments, text⟩ : ∃ r, openTasks.extend narrowing = .ok r ∧
      openTasks.compile.arguments ++ r.compile.arguments = ["0", "0", "2", "%?%", "Home"] ∧
      r.compile.selection = "done = ? AND (priority >= ? OR (NOT name LIKE ?)) OR " ++
        "list_id IN (SELECT _id FROM lists WHERE name = ?)" := ⟨_, rfl, rfl, rfl⟩
  obtain ⟨appends, groups, _, _⟩ := compile_appends
  have filled : r.isEmpty = false := by
    cases extended
    rfl
  exact ⟨r, extended, (appends extended).1, (groups openTasks r .or filled).2.trans arguments, text⟩

end Query

end Criteria
