import Criteria.Execution
import Criteria.Proofs.ClauseReading
import Criteria.Sql.Statement

namespace Criteria

open Criteria.Sql

theorem Node.selection_ne_empty (node : Node) : node.clause.selection ≠ "" := by
  intro empty
  have none : node.clause.selection.toList = [] := by simp [empty]
  cases node with
  | condition condition =>
      obtain ⟨column, op, value⟩ := condition
      cases value <;> simp [Node.clause, Condition.clause, Value.clause] at none
  | group entries => simp [Node.clause] at none

theorem Entry.selection_eq_empty_iff (entries : List Entry) :
    (Entry.joinedClause entries).selection = "" ↔ entries = [] := by
  cases entries with
  | nil => simp [Entry.joinedClause, Clause.empty]
  | cons entry rest =>
      obtain ⟨connector, node⟩ := entry
      simp [Entry.joinedClause, node.selection_ne_empty]

namespace Query

/-- What the query selects from a table. Its own projection and limit are not asked for. -/
def selection (q : Query) (table : String) (columns : List String) (limit : Option UInt64) :
    Select :=
  ⟨columns, table, Entry.toExpr? q.entries, q.orderings, limit.map UInt64.toNat⟩

theorem statement_request (q : Query) (table : String) (columns : List String)
    (limit : Option UInt64) :
    (q.request table columns limit).statement =
      (Clause.select columns table (Entry.whereClause q.entries) q.orderings limit).selection := by
  have condition : (if q.compile.selection.isEmpty then "" else " WHERE " ++ q.compile.selection) =
      (Entry.whereClause q.entries).selection := by
    simp only [Entry.whereClause, Query.compile, String.isEmpty_iff, Entry.selection_eq_empty_iff,
      List.isEmpty_iff]
    split <;> rfl
  unfold Query.request Request.statement Clause.select SortKey.orderClause Query.orderText?
  simp only [Clause.selection_append, Clause.selection_literal, ← condition]
  cases SortKey.orderText? q.orderings <;> cases limit <;> rfl

theorem arguments_select (q : Query) (table : String) (columns : List String)
    (limit : Option UInt64) :
    (Clause.select columns table (Entry.whereClause q.entries) q.orderings limit).arguments =
      q.compile.arguments := by
  have order : (SortKey.orderClause q.orderings).arguments = [] := by
    unfold SortKey.orderClause
    split <;> rfl
  have limited : (limitClause limit).arguments = [] := by
    cases limit <;> rfl
  simp only [Clause.select, Clause.arguments_append, Clause.arguments_literal, order, limited,
    List.append_nil, List.nil_append, Entry.whereClause, Query.compile]
  cases q.entries <;> rfl

structure PlainNames (q : Query) (table : String) (columns : List String) : Prop where
  table : IsPlainName table
  columns : ∀ name ∈ columns, IsPlainName name
  conditions : ∀ name ∈ Entry.names q.entries, IsPlainName name
  orderings : ∀ key ∈ q.orderings, IsPlainName key.column

def statementTokens (q : Query) (table : String) (columns : List String)
    (limit : Option UInt64) : List Token :=
  selectTokens columns table (Entry.whereTokens q.entries) q.orderings (limit.map UInt64.toNat)

theorem ofTokens?_statementTokens {q : Query} (table : String) (columns : List String)
    (limit : Option UInt64) (formed : q.WellFormed) :
    Select.ofTokens? (q.statementTokens table columns limit) =
      some (q.selection table columns limit) := by
  have formed := (Query.wellFormed_iff q).mp formed
  have written : q.statementTokens table columns limit =
      .keyword .selectWord :: (q.statementTokens table columns limit).tail := rfl
  have read : Sql.readSelect (depthFor (q.statementTokens table columns limit).tail)
      ((q.statementTokens table columns limit).tail ++ []) =
        some (q.selection table columns limit, []) := by
    refine Entry.readSelect_of_reads (Entry.readsAll q.entries formed) ?_ (.inl rfl)
    simp [depthFor, statementTokens, selectTokens]
    omega
  rw [List.append_nil] at read
  rw [written, Select.ofTokens?, read]

/-- The statement is read as the selection of its query, and no place in it stays open. -/
theorem ofTokens?_request {q : Query} {table : String} {columns : List String}
    (limit : Option UInt64) (formed : q.WellFormed) (plain : q.PlainNames table columns) :
    ∃ tokens, Token.ofText? (q.request table columns limit).statement = some tokens ∧
      tokens.countP Token.isPlaceholder = q.compile.arguments.length ∧
      Select.ofTokens? (Token.bind tokens q.compile.arguments) =
        some (q.selection table columns limit) := by
  have writes := Clause.select_writes limit plain.columns plain.table
    (Entry.whereClause_writes (Entry.joinedClause_writes q.entries plain.conditions))
    (Entry.whereClause_startsLoose q.entries) plain.orderings
  have bound := writes.binds [] []
  rw [List.append_nil, List.append_nil, Token.bind, List.append_nil, arguments_select] at bound
  refine ⟨(q.statementTokens table columns limit).map Token.unbound, ?_, ?_, ?_⟩
  · rw [statement_request]
    exact writes.lexes
  · rw [← arguments_select q table columns limit]
    exact writes.counts
  · rw [← ofTokens?_statementTokens table columns limit formed]
    exact congrArg Select.ofTokens? bound

end Query

namespace Sql.Database

variable {db : Database} {q : Query} {table : String} {columns : List String}
  {limit : Option UInt64}

theorem prepare_request {t : Table} {width : Nat} (formed : q.WellFormed)
    (plain : q.PlainNames table columns) (found : db.table? table = some t)
    (checked : (q.selection table columns limit).check db [] = .ok width) :
    ∃ tokens, Token.ofText? (q.request table columns limit).statement = some tokens ∧
      tokens.countP Token.isPlaceholder = q.compile.arguments.length ∧
      db.prepare (Token.bind tokens q.compile.arguments) =
        .ok (t, q.selection table columns limit) := by
  obtain ⟨tokens, lexed, counted, read⟩ := Query.ofTokens?_request limit formed plain
  refine ⟨tokens, lexed, counted, ?_⟩
  rw [prepare, read]
  have required : db.require (q.selection table columns limit).table = .ok t := by
    simp [require, Query.selection, found]
  simp only [checked, required, bind, Except.bind, pure, Except.pure]

/-- A statement that is prepared and has all its arguments can only fail with a limit. -/
theorem answer_of_prepare {statement : String} {arguments : List String} {tokens : List Token}
    {t : Table} {select : Select} (lexed : Token.ofText? statement = some tokens)
    (counted : tokens.countP Token.isPlaceholder = arguments.length)
    (prepared : db.prepare (Token.bind tokens arguments) = .ok (t, select)) :
    db.answer statement arguments =
      if select.limits.any (largestLimit < ·) then .error (.read, .mismatch)
      else .ok ⟨select.names t, select.rows db []⟩ := by
  have staged : (db.prepare (Token.bind tokens arguments)).mapError (Stage.prepare, ·) =
      .ok (t, select) := by
    rw [prepared]
    rfl
  rw [answer, lexed, Option.getD_some, staged]
  by_cases large : select.limits.any (largestLimit < ·) = true
  · rw [if_pos large]
    simp [bind, Except.bind, counted, large, throw, throwThe, MonadExceptOf.throw]
  · rw [if_neg large]
    simp [bind, Except.bind, pure, Except.pure, counted, large]

theorem answer_request {t : Table} {width : Nat} (formed : q.WellFormed)
    (plain : q.PlainNames table columns) (found : db.table? table = some t)
    (checked : (q.selection table columns limit).check db [] = .ok width)
    (small : ∀ n ∈ (q.selection table columns limit).limits, n ≤ largestLimit) :
    db.answer (q.request table columns limit).statement q.compile.arguments =
      .ok ⟨(q.selection table columns limit).names t,
        (q.selection table columns limit).rows db []⟩ := by
  obtain ⟨tokens, lexed, counted, prepared⟩ := prepare_request formed plain found checked
  rw [answer_of_prepare lexed counted prepared, if_neg (by simpa using small)]

theorem answer_request_unchecked {failure : Failure} (formed : q.WellFormed)
    (plain : q.PlainNames table columns)
    (unchecked : (q.selection table columns limit).check db [] = .error failure) :
    db.answer (q.request table columns limit).statement q.compile.arguments =
      .error (.prepare, failure) := by
  obtain ⟨tokens, lexed, counted, read⟩ := Query.ofTokens?_request limit formed plain
  have prepared : db.prepare (Token.bind tokens q.compile.arguments) = .error failure := by
    rw [prepare, read]
    simp only [unchecked, bind, Except.bind]
  rw [answer, lexed, Option.getD_some, prepared]
  rfl

theorem answer_request_missing (formed : q.WellFormed) (plain : q.PlainNames table columns)
    (missing : db.table? table = none) :
    db.answer (q.request table columns limit).statement q.compile.arguments =
      .error (.prepare, .noTable table) := by
  have required : db.require table = .error (.noTable table) := by simp [require, missing]
  apply answer_request_unchecked formed plain
  simp only [Query.selection, Select.check, required, bind, Except.bind]

theorem store_of_answer_ok {request : Request} {answer : Answer}
    (answered : db.answer request.statement request.arguments = .ok answer) :
    db.store request = .ok (answer.rows.map fun row => ⟨answer.columns, row.map Datum.cell⟩) := by
  -- Proving the equation of `store` would run the answer first.
  delta store
  rw [answered]

theorem store_of_answer_error {request : Request} {stage : Stage} {failure : Failure}
    (answered : db.answer request.statement request.arguments = .error (stage, failure)) :
    db.store request =
      .error ⟨stage.phrase ++ " on '" ++ request.table ++ "'", some failure.message⟩ := by
  delta store
  rw [answered]

end Sql.Database

end Criteria
