import Criteria.Proofs.Records

namespace Criteria

namespace Sql

/-- Both are true of the same rows, refer to columns that are there for both or for neither, and
have the same limits inside. -/
structure Expr.Alike (db : Database) (a b : Expr) : Prop where
  truth : ∀ scope, a.truth db scope = b.truth db scope
  check : ∀ reach, a.check db reach = b.check db reach
  limits : a.limits = b.limits

/-- There is a condition for both or for neither. -/
inductive Expr.AlikeWhere (db : Database) : Option Expr → Option Expr → Prop
  | none : AlikeWhere db none none
  | some {a b : Expr} (alike : a.Alike db b) : AlikeWhere db (some a) (some b)

variable {db : Database}

namespace Expr.Alike

theorem refl (a : Expr) : a.Alike db a :=
  ⟨fun _ => rfl, fun _ => rfl, rfl⟩

variable {a b c d : Expr}

theorem not (alike : a.Alike db b) : (Expr.not a).Alike db (.not b) where
  truth scope := by rw [Expr.truth, Expr.truth, alike.truth]
  check reach := by rw [Expr.check, Expr.check, alike.check]
  limits := by rw [Expr.limits, Expr.limits, alike.limits]

theorem and (first : a.Alike db b) (second : c.Alike db d) :
    (Expr.and a c).Alike db (.and b d) where
  truth scope := by rw [Expr.truth, Expr.truth, first.truth, second.truth]
  check reach := by rw [Expr.check, Expr.check, first.check, second.check]
  limits := by rw [Expr.limits, Expr.limits, first.limits, second.limits]

theorem or (first : a.Alike db b) (second : c.Alike db d) :
    (Expr.or a c).Alike db (.or b d) where
  truth scope := by rw [Expr.truth, Expr.truth, first.truth, second.truth]
  check reach := by rw [Expr.check, Expr.check, first.check, second.check]
  limits := by rw [Expr.limits, Expr.limits, first.limits, second.limits]

end Expr.Alike

/-- Two sequences with the same connectors between expressions that are alike. -/
inductive Expr.AlikeAll (db : Database) : List (Connector × Expr) → List (Connector × Expr) → Prop
  | nil : AlikeAll db [] []
  | cons {a b : Expr} {rest others : List (Connector × Expr)} (connector : Connector)
      (alike : a.Alike db b) (later : AlikeAll db rest others) :
      AlikeAll db ((connector, a) :: rest) ((connector, b) :: others)

namespace Expr

variable {a b : Expr} {following others : List (Connector × Expr)}

theorem alike_joined_of_firstRun
    (run : (firstRun a following).1.Alike db (firstRun b others).1)
    (later : AlikeWhere db (firstRun a following).2 (firstRun b others).2) :
    (joined a following).Alike db (joined b others) := by
  unfold joined
  generalize firstRun a following = first at run later ⊢
  generalize firstRun b others = second at run later ⊢
  obtain ⟨run₁, later₁⟩ := first
  obtain ⟨run₂, later₂⟩ := second
  cases later with
  | none => exact run
  | some alike => exact run.or alike

theorem alike_firstRun (alike : a.Alike db b) (all : AlikeAll db following others) :
    (firstRun a following).1.Alike db (firstRun b others).1 ∧
      AlikeWhere db (firstRun a following).2 (firstRun b others).2 := by
  induction all generalizing a b with
  | nil => exact ⟨alike, .none⟩
  | cons connector next _ induction =>
      obtain ⟨run, later⟩ := induction next
      cases connector with
      | and => exact ⟨alike.and run, later⟩
      | or =>
          rw [firstRun_or, firstRun_or]
          exact ⟨alike, .some (alike_joined_of_firstRun run later)⟩

theorem alike_joined (alike : a.Alike db b) (all : AlikeAll db following others) :
    (joined a following).Alike db (joined b others) :=
  alike_joined_of_firstRun (alike_firstRun alike all).1 (alike_firstRun alike all).2

end Expr

/-- Both keep the same rows for the same sort keys and the same limit, or fail the same way. -/
structure Select.Alike (db : Database) (a b : Select) : Prop where
  table : a.table = b.table
  columns : a.columns = b.columns
  orderings : a.orderings = b.orderings
  limit : a.limit = b.limit
  kept : ∀ outer, a.kept db outer = b.kept db outer
  check : ∀ outer, a.check db outer = b.check db outer
  limits : a.limits = b.limits

theorem Select.alike_of_condition {condition other : Option Expr}
    (alike : Expr.AlikeWhere db condition other) (columns : List String) (table : String)
    (orderings : List SortKey) (limit : Option Nat) :
    (Select.mk columns table condition orderings limit).Alike db
      ⟨columns, table, other, orderings, limit⟩ := by
  have admits (scope : Scope) : Expr.admits db scope condition = Expr.admits db scope other := by
    cases alike with
    | none => rfl
    | some alike => rw [Expr.admits, Expr.admits, alike.truth]
  have checks (reach : Reach) :
      Expr.checkCondition db reach condition = Expr.checkCondition db reach other := by
    cases alike with
    | none => rfl
    | some alike => rw [Expr.checkCondition, Expr.checkCondition, alike.check]
  have limits : Expr.conditionLimits condition = Expr.conditionLimits other := by
    cases alike with
    | none => rfl
    | some alike => rw [Expr.conditionLimits, Expr.conditionLimits, alike.limits]
  refine ⟨rfl, rfl, rfl, rfl, fun outer => ?_, fun outer => ?_, ?_⟩
  · simp only [Select.kept, admits]
  · simp only [Select.check, checks]
  · rw [Select.limits, Select.limits, limits]

namespace Select.Alike

variable {a b : Select} {outer : Scope}

theorem names (alike : a.Alike db b) (t : Table) : a.names t = b.names t := by
  rw [Select.names, Select.names, alike.columns]

theorem affinity (alike : a.Alike db b) (outer : Reach) :
    a.affinity db outer = b.affinity db outer := by
  rw [Select.affinity, Select.affinity, alike.table, alike.columns]

theorem rows_eq (alike : a.Alike db b) (decided : a.Decided db outer) :
    a.rows db outer = b.rows db outer := by
  have decided' : b.Decided db outer := by
    rw [Select.Decided, ← alike.orderings, ← alike.kept]
    exact decided
  rw [Select.rows_of_decided decided, Select.rows_of_decided decided', alike.limit,
    alike.orderings, alike.columns, alike.kept]

theorem rows_perm (alike : a.Alike db b) (unlimited : a.limit = none) :
    (a.rows db outer).Perm (b.rows db outer) := by
  have left := @Select.rows_perm_of_unlimited db outer a unlimited
  have right := @Select.rows_perm_of_unlimited db outer b (alike.limit ▸ unlimited)
  rw [← alike.kept, ← alike.columns] at right
  exact left.trans right.symm

end Select.Alike

/-- Which rows a selection answers is up to no engine: it answers all that its condition admits, or
its sort keys decide which come first. -/
def Select.Settled (db : Database) (select : Select) : Prop :=
  select.limit = none ∨ ∀ outer, select.Decided db outer

theorem Expr.alike_inSelect {select other : Select} (alike : select.Alike db other)
    (settled : select.Settled db) (column : String) :
    (Expr.inSelect column select).Alike db (.inSelect column other) where
  truth scope := by
    have same : (select.rows db scope).Perm (other.rows db scope) :=
      settled.elim alike.rows_perm fun decided => .of_eq (alike.rows_eq (decided scope))
    rw [Expr.truth, Expr.truth, alike.affinity]
    exact Scope.inColumn_perm scope column _ (same.map _)
  check reach := by rw [Expr.check, Expr.check, alike.check]
  limits := by rw [Expr.limits, Expr.limits, alike.limits]

end Sql

open Sql

namespace Query

variable {q r : Query} {db : Database} {table : String} {columns : List String}

theorem alike_selection
    (alike : Expr.AlikeWhere db (Entry.toExpr? q.entries) (Entry.toExpr? r.entries))
    (orderings : q.orderings = r.orderings) (table : String) (columns : List String)
    (limit : Option UInt64) :
    (q.selection table columns limit).Alike db (r.selection table columns limit) := by
  rw [selection, selection, orderings]
  exact Select.alike_of_condition alike columns table r.orderings _

theorem answer_of_alike {limit : Option UInt64}
    (alike : (q.selection table columns limit).Alike db (r.selection table columns limit))
    (formed : q.WellFormed) (formed' : r.WellFormed) (plain : q.PlainNames table columns)
    (plain' : r.PlainNames table columns) :
    (∃ stage failure,
      db.answer (q.request table columns limit).statement q.compile.arguments =
          .error (stage, failure) ∧
        db.answer (r.request table columns limit).statement r.compile.arguments =
          .error (stage, failure)) ∨
      ∃ names,
        db.answer (q.request table columns limit).statement q.compile.arguments =
            .ok ⟨names, (q.selection table columns limit).rows db []⟩ ∧
          db.answer (r.request table columns limit).statement r.compile.arguments =
            .ok ⟨names, (r.selection table columns limit).rows db []⟩ := by
  have checks := alike.check []
  cases checked : (q.selection table columns limit).check db [] with
  | error failure =>
      rw [checked] at checks
      exact .inl ⟨_, _, Database.answer_request_unchecked formed plain checked,
        Database.answer_request_unchecked formed' plain' checks.symm⟩
  | ok width =>
      rw [checked] at checks
      cases found : db.table? table with
      | none =>
          exact .inl ⟨_, _, Database.answer_request_missing formed plain found,
            Database.answer_request_missing formed' plain' found⟩
      | some t =>
          obtain ⟨tokens, lexed, counted, prepared⟩ :=
            Database.prepare_request formed plain found checked
          obtain ⟨tokens', lexed', counted', prepared'⟩ :=
            Database.prepare_request formed' plain' found checks.symm
          rw [Database.answer_of_prepare lexed counted prepared,
            Database.answer_of_prepare lexed' counted' prepared', ← alike.limits, ← alike.names]
          split
          case isTrue large => exact .inl ⟨_, _, rfl, rfl⟩
          case isFalse small => exact .inr ⟨_, rfl, rfl⟩

/-- Selections that are alike fail alike, or both are answered with rows that are shown alike. -/
theorem store_of_alike {limit : Option UInt64}
    (alike : (q.selection table columns limit).Alike db (r.selection table columns limit))
    (formed : q.WellFormed) (formed' : r.WellFormed) (plain : q.PlainNames table columns)
    (plain' : r.PlainNames table columns) :
    (∃ error, db.store (q.request table columns limit) = .error error ∧
      db.store (r.request table columns limit) = .error error) ∨
      ∃ shown : List Datum → Row,
        db.store (q.request table columns limit) =
            .ok (((q.selection table columns limit).rows db []).map shown) ∧
          db.store (r.request table columns limit) =
            .ok (((r.selection table columns limit).rows db []).map shown) := by
  rcases answer_of_alike alike formed formed' plain plain' with
    ⟨stage, failure, failed, failed'⟩ | ⟨names, answered, answered'⟩
  · exact .inl ⟨_, @Database.store_of_answer_error db (q.request table columns limit) _ _ failed,
      @Database.store_of_answer_error db (r.request table columns limit) _ _ failed'⟩
  · exact .inr ⟨_, @Database.store_of_answer_ok db (q.request table columns limit) _ answered,
      @Database.store_of_answer_ok db (r.request table columns limit) _ answered'⟩

theorem result_run_of_store {store : Store} {limit : Option UInt64}
    (same : store (q.request table columns limit) = store (r.request table columns limit)) :
    (q.run store table columns limit).result = (r.run store table columns limit).result := by
  cases answered : store (r.request table columns limit) with
  | ok rows => rw [q.run_of_ok (same.trans answered), r.run_of_ok answered]
  | error error => rw [q.run_of_error (same.trans answered), r.run_of_error answered]

end Query

end Criteria
