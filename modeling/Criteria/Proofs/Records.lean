import Criteria.Proofs.Asking
import Criteria.Proofs.Executing
import Criteria.Proofs.Sql.Ordering
import Criteria.Proofs.Sql.Values

namespace Criteria

open Criteria.Sql

namespace Sql.Expr

theorem joined_of_firstRun {motive : Expr → Prop}
    (or : ∀ left right, motive left → motive right → motive (.or left right)) {first : Expr}
    {following : List (Connector × Expr)} (run : motive (firstRun first following).1)
    (later : ∀ other ∈ (firstRun first following).2, motive other) :
    motive (joined first following) := by
  unfold joined
  cases split : firstRun first following with
  | mk left right =>
      rw [split] at run later
      cases right with
      | none => exact run
      | some other => exact or _ _ run (later other rfl)

/-- What holds of single expressions and is kept by both connectives holds of a sequence. -/
theorem joined_induction {motive : Expr → Prop}
    (and : ∀ left right, motive left → motive right → motive (.and left right))
    (or : ∀ left right, motive left → motive right → motive (.or left right))
    {first : Expr} {following : List (Connector × Expr)} (here : motive first)
    (there : ∀ pair ∈ following, motive pair.2) : motive (joined first following) := by
  -- The motive has to hold of the run and of what follows it at once, as both come out together.
  have runs : motive (firstRun first following).1 ∧
      ∀ later ∈ (firstRun first following).2, motive later := by
    induction following generalizing first with
    | nil => exact ⟨here, by simp [firstRun]⟩
    | cons pair rest induction =>
        obtain ⟨connector, next⟩ := pair
        obtain ⟨run, later⟩ := @induction next (there (connector, next) (by simp))
          fun pair member => there pair (by simp [member])
        cases connector with
        | and => exact ⟨and _ _ here run, later⟩
        | or =>
            rw [firstRun_or]
            refine ⟨here, fun other same => ?_⟩
            cases same
            exact joined_of_firstRun or run later
  exact joined_of_firstRun or runs.1 runs.2

theorem firstRun_of_and {first : Expr} {following : List (Connector × Expr)}
    (conjunction : ∀ pair ∈ following, pair.1 = .and) : (firstRun first following).2 = none := by
  induction following generalizing first with
  | nil => rfl
  | cons pair rest induction =>
      obtain ⟨connector, next⟩ := pair
      obtain rfl : connector = .and := conjunction (connector, next) (by simp)
      exact induction fun pair member => conjunction pair (by simp [member])

theorem Truth.and_eq_yes (a b : Truth) : a.and b = .yes ↔ a = .yes ∧ b = .yes := by
  cases a <;> cases b <;> simp [Truth.and]

/-- A sequence joined by `AND` alone is true when all in it is. -/
theorem truth_joined_of_and {db : Database} {scope : Scope} {first : Expr}
    {following : List (Connector × Expr)} (conjunction : ∀ pair ∈ following, pair.1 = .and) :
    (joined first following).truth db scope = .yes ↔
      first.truth db scope = .yes ∧ ∀ pair ∈ following, pair.2.truth db scope = .yes := by
  have alone := @firstRun_of_and first following conjunction
  have run : (firstRun first following).1.truth db scope = .yes ↔
      first.truth db scope = .yes ∧ ∀ pair ∈ following, pair.2.truth db scope = .yes := by
    clear alone
    induction following generalizing first with
    | nil => simp [firstRun]
    | cons pair rest induction =>
        obtain ⟨connector, next⟩ := pair
        obtain rfl : connector = .and := conjunction (connector, next) (by simp)
        have later := @induction next fun pair member => conjunction pair (by simp [member])
        rw [firstRun_and, truth, Truth.and_eq_yes, later]
        simp
  unfold joined
  cases split : firstRun first following with
  | mk left other =>
      rw [split] at alone run
      subst alone
      exact run

end Sql.Expr

namespace Entry

theorem followingExprs_eq_map (entries : List Entry) :
    Entry.followingExprs entries =
      entries.map fun entry => (entry.connector, entry.node.toExpr) := by
  rw [Entry.followingExprs_eq, Piece.exprs, Entry.pieces, List.map_map]
  rfl

theorem toExpr?_induction {motive : Expr → Prop}
    (and : ∀ left right, motive left → motive right → motive (.and left right))
    (or : ∀ left right, motive left → motive right → motive (.or left right))
    {entries : List Entry} (all : ∀ entry ∈ entries, motive entry.node.toExpr) :
    ∀ expr ∈ Entry.toExpr? entries, motive expr := by
  cases entries with
  | nil => simp [Entry.toExpr?]
  | cons entry rest =>
      obtain ⟨connector, node⟩ := entry
      intro expr same
      cases same
      apply Expr.joined_induction and or (all ⟨connector, node⟩ (by simp))
      intro pair member
      rw [followingExprs_eq_map] at member
      obtain ⟨entry, among, rfl⟩ := List.mem_map.mp member
      exact all entry (by simp [among])

theorem checkCondition_toExpr? {db : Database} {reach : Reach} {entries : List Entry}
    (checks : ∀ entry ∈ entries, entry.node.toExpr.check db reach = .ok ()) :
    Expr.checkCondition db reach (Entry.toExpr? entries) = .ok () := by
  have all := @toExpr?_induction (fun expr => expr.check db reach = .ok ())
    (fun left right first second => by rw [Expr.check, first]; exact second)
    (fun left right first second => by rw [Expr.check, first]; exact second) entries checks
  cases read : Entry.toExpr? entries with
  | none => rfl
  | some expr => exact all expr read

theorem forall_mem_conditionLimits {motive : Nat → Prop} {entries : List Entry}
    (each : ∀ entry ∈ entries, ∀ n ∈ entry.node.toExpr.limits, motive n) :
    ∀ n ∈ Expr.conditionLimits (Entry.toExpr? entries), motive n := by
  have both (left right : Expr) (first : ∀ n ∈ left.limits, motive n)
      (second : ∀ n ∈ right.limits, motive n) : ∀ n ∈ left.limits ++ right.limits, motive n :=
    List.forall_mem_append.mpr ⟨first, second⟩
  have all := @toExpr?_induction (fun expr => ∀ n ∈ expr.limits, motive n)
    (fun left right first second => by rw [Expr.limits]; exact both left right first second)
    (fun left right first second => by rw [Expr.limits]; exact both left right first second)
    entries each
  cases read : Entry.toExpr? entries with
  | none => exact fun n member => by cases member
  | some expr => exact all expr read

/-- Conditions that are joined by `AND` alone admit a row when each of them is true of it. -/
theorem admits_toExpr? {db : Database} {scope : Scope} {entries : List Entry}
    (conjunction : ∀ entry ∈ entries, entry.connector = .and) :
    Expr.admits db scope (Entry.toExpr? entries) =
      entries.all fun entry => entry.node.toExpr.truth db scope = .yes := by
  cases entries with
  | nil => rfl
  | cons entry rest =>
      obtain ⟨connector, node⟩ := entry
      have joined : ∀ pair ∈ Entry.followingExprs rest, pair.1 = .and := by
        intro pair member
        rw [followingExprs_eq_map] at member
        obtain ⟨entry, among, rfl⟩ := List.mem_map.mp member
        exact conjunction entry (by simp [among])
      have whole := @Expr.truth_joined_of_and db scope node.toExpr _ joined
      rw [Bool.eq_iff_iff, Entry.toExpr?, Expr.admits, decide_eq_true_iff, whole]
      simp [followingExprs_eq_map]

end Entry

@[simp] theorem Sql.Truth.ofBool_eq_yes (b : Bool) : Truth.ofBool b = .yes ↔ b = true := by
  cases b <;> simp [Truth.ofBool]

theorem Sql.Truth.or_ofBool (a b : Bool) : (ofBool a).or (ofBool b) = ofBool (a || b) := by
  cases a <;> cases b <;> rfl

theorem Sql.Truth.any_ofBool (holds : α → Bool) (items : List α) :
    Truth.any (items.map fun a => ofBool (holds a)) = ofBool (items.any holds) := by
  induction items with
  | nil => rfl
  | cons a rest induction =>
      rw [List.map_cons, List.any_cons, ← or_ofBool, ← induction]
      rfl

namespace Sql.Scope

theorem compare_text {scope : Scope} {column : String} {held : String}
    (affinity : scope.affinity column = .text) (value : scope.value column = .ofString held)
    (text : String) : scope.compare column .eq (some text) = .ofBool (held = text) := by
  rw [Scope.compare, affinity, value]
  exact Datum.related_ofString held text

/-- The decimal text of an integer is compared with a column of numbers as the integer. -/
theorem compare_integer {scope : Scope} {column : String} {held : Int64} (relation : Relation)
    (affinity : scope.affinity column = .integer) (value : scope.value column = .integer held)
    (n : Int64) :
    scope.compare column relation (some (toString n.toInt)) =
      Datum.related relation (.integer held) (.integer n) := by
  rw [Scope.compare, affinity, value]
  show Datum.related relation _ (Datum.ofString (toString n.toInt)).toNumber = _
  rw [Datum.toNumber_ofString_toString]

theorem like_text {scope : Scope} {column held : String}
    (value : scope.value column = .ofString held) (pattern : String) :
    scope.like column (some pattern) =
      .ofBool (Like.holds pattern.toUTF8.data.toList held.toUTF8.data.toList) := by
  rw [Scope.like, value]
  rfl

end Sql.Scope

variable {α β : Type}

/-- The table of the entity holds the records, and the entity reads each of them back. -/
structure Holds (db : Database) (entity : Entity β) (t : Table) (values : α → List Datum)
    (record : α → β) (records : List α) : Prop where
  found : db.table? entity.table = some t
  rows : t.rows = records.map values
  named : entity.columns.map (fun name =>
    ((findColumn? t.columns name).map Column.name).getD name) =
    entity.columns
  filled : entity.columns.isEmpty = false
  read : ∀ r, entity.mapper ⟨entity.columns, entity.columns.map fun name =>
    (Scope.value [⟨t.columns, values r⟩] name).cell⟩ = .ok (record r)

/-- The records that a condition admits, in an order that the sort keys allow. -/
structure Sql.Scope.Chosen (db : Database) (outer : Scope) (t : Table) (values : α → List Datum)
    (condition : Option Expr) (orderings : List SortKey) (records chosen : List α) : Prop where
  perm : chosen.Perm
    (records.filter fun r => Expr.admits db (⟨t.columns, values r⟩ :: outer) condition)
  ordered : chosen.Pairwise fun r s =>
    (Scope.order orderings (⟨t.columns, values r⟩ :: outer)
      (⟨t.columns, values s⟩ :: outer)).isLE = true

/-- Keys that tell the records apart allow one order only. -/
theorem Sql.Scope.Chosen.unique {db : Database} {outer : Scope} {t : Table}
    {values : α → List Datum} {condition : Option Expr} {orderings : List SortKey}
    {records chosen others : List α}
    (choice : Chosen db outer t values condition orderings records chosen)
    (choice' : Chosen db outer t values condition orderings records others)
    (apart : others.Pairwise fun r s => Scope.order orderings (⟨t.columns, values r⟩ :: outer)
      (⟨t.columns, values s⟩ :: outer) ≠ .eq) : chosen = others := by
  have oriented : Std.OrientedCmp fun r s => Scope.order orderings
      (⟨t.columns, values r⟩ :: outer) (⟨t.columns, values s⟩ :: outer) :=
    ⟨Std.OrientedCmp.eq_swap⟩
  exact (eq_of_perm_of_apart (choice'.perm.trans choice.perm.symm) apart choice'.ordered
    choice.ordered).symm

theorem Sql.Select.exists_chosen {db : Database} {outer : Scope} {t : Table}
    {values : α → List Datum} {records : List α} {table : String} (columns : List String)
    (condition : Option Expr) (orderings : List SortKey) (limit : Option Nat)
    (found : db.table? table = some t) (rows : t.rows = records.map values) :
    ∃ chosen, Scope.Chosen db outer t values condition orderings records chosen ∧
      Select.rows db outer ⟨columns, table, condition, orderings, limit⟩ =
        (limited limit chosen).map fun r =>
          Scope.project (⟨t.columns, values r⟩ :: outer) columns := by
  obtain ⟨sorted, perm, ordered, answered⟩ :=
    Select.exists_sorted db outer ⟨columns, table, condition, orderings, limit⟩
  have kept : Select.kept db outer ⟨columns, table, condition, orderings, limit⟩ =
      (records.filter fun r => Expr.admits db (⟨t.columns, values r⟩ :: outer) condition).map
        fun r => ⟨t.columns, values r⟩ :: outer := by
    simp only [Select.kept, found, rows, List.map_map, List.filter_map]
    rfl
  rw [kept] at perm
  obtain ⟨chosen, rfl, among⟩ := (congrFun₂ (List.eq_map_comp_perm _) _ _).mpr perm
  refine ⟨chosen, ⟨among, List.pairwise_map.mp ordered⟩, ?_⟩
  rw [answered]
  cases limit <;> simp [limited, List.map_take, Function.comp_def]

namespace Query

/-- The sort keys leave no two of the rows equal that the query asks for. -/
def Decided (q : Query) (db : Database) (table : String) : Prop :=
  (q.selection table [] none).Decided db []

def Chosen (q : Query) (db : Database) (t : Table) (values : α → List Datum)
    (records chosen : List α) : Prop :=
  Scope.Chosen db [] t values (Entry.toExpr? q.entries) q.orderings records chosen

theorem forall_mem_limits_selection {q : Query} (table : String) (columns : List String)
    {limit : Option UInt64}
    (inner : ∀ n ∈ Expr.conditionLimits (Entry.toExpr? q.entries), n ≤ Database.largestLimit)
    (small : ∀ n ∈ limit, n.toNat ≤ Database.largestLimit) :
    ∀ n ∈ (q.selection table columns limit).limits, n ≤ Database.largestLimit := by
  rw [selection, Select.limits]
  refine List.forall_mem_append.mpr ⟨inner, fun n own => ?_⟩
  obtain ⟨m, same, rfl⟩ := Option.map_eq_some_iff.mp (Option.mem_toList.mp own)
  exact small m same

structure Answerable (q : Query) (db : Database) (entity : Entity β) (t : Table) : Prop where
  formed : q.WellFormed
  plain : q.PlainNames entity.table entity.columns
  columns : ∀ name ∈ entity.columns ++ q.orderings.map SortKey.column,
    (findColumn? t.columns name).isSome
  conditions : ∀ entry ∈ q.entries, entry.node.toExpr.check db [t.columns] = .ok ()
  unlimited : ∀ entry ∈ q.entries, entry.node.toExpr.limits = []

end Query

theorem Sql.Reach.check_of_found {reach : Reach} {columns : List Column} {name : String}
    (found : (findColumn? columns name).isSome) : Reach.check (columns :: reach) name = .ok () := by
  simp [Reach.check, found]

theorem Sql.Reach.checkAll_of_check {reach : Reach} {names : List String}
    (checks : ∀ name ∈ names, reach.check name = .ok ()) : reach.checkAll names = .ok () := by
  induction names with
  | nil => rfl
  | cons name rest induction =>
      have here := checks name (by simp)
      have later := induction fun other member => checks other (by simp [member])
      rw [Reach.checkAll, List.forM_eq_forM] at later ⊢
      rw [List.forM_cons, here]
      exact later

theorem Sql.Select.check_of_found {db : Database} {outer : Reach} {t : Table} {table : String}
    {columns : List String} {condition : Option Expr} {orderings : List SortKey}
    (limit : Option Nat) (found : db.table? table = some t)
    (names : ∀ name ∈ columns ++ orderings.map SortKey.column, (findColumn? t.columns name).isSome)
    (checked : Expr.checkCondition db (t.columns :: outer) condition = .ok ()) :
    Select.check db outer ⟨columns, table, condition, orderings, limit⟩ =
      .ok (if columns.isEmpty then t.columns.length else columns.length) := by
  have required : db.require table = .ok t := by
    rw [Database.require, found]
  have shown : Reach.checkAll (t.columns :: outer) columns = .ok () :=
    Reach.checkAll_of_check fun name member =>
      Reach.check_of_found (names name (List.mem_append_left _ member))
  have sorted : Reach.checkAll (t.columns :: outer) (orderings.map SortKey.column) = .ok () :=
    Reach.checkAll_of_check fun name member =>
      Reach.check_of_found (names name (List.mem_append_right _ member))
  rw [Select.check, required]
  simp only [bind, Except.bind, shown, checked, sorted]

namespace Holds

variable {db : Database} {entity : Entity β} {t : Table} {values : α → List Datum}
  {record : α → β} {records : List α} {q : Query}

theorem check_selection (holds : Holds db entity t values record records)
    (answerable : q.Answerable db entity t) (limit : Option UInt64) :
    (q.selection entity.table entity.columns limit).check db [] =
      .ok entity.columns.length := by
  have checked := Select.check_of_found (limit.map UInt64.toNat) holds.found answerable.columns
    (@Entry.checkCondition_toExpr? db [t.columns] q.entries answerable.conditions)
  rw [holds.filled] at checked
  exact checked

theorem result_run (holds : Holds db entity t values record records)
    (answerable : q.Answerable db entity t) {limit : Option UInt64}
    (small : ∀ n ∈ limit, n.toNat ≤ Database.largestLimit) :
    ∃ chosen, q.Chosen db t values records chosen ∧
      (q.run db.store entity.table entity.columns limit).result =
        .ok ((limited (limit.map UInt64.toNat) chosen).map fun r =>
          ⟨entity.columns, entity.columns.map fun name =>
            (Scope.value [⟨t.columns, values r⟩] name).cell⟩) := by
  have checked := holds.check_selection answerable limit
  have inner : ∀ n ∈ Expr.conditionLimits (Entry.toExpr? q.entries), n ≤ Database.largestLimit :=
    Entry.forall_mem_conditionLimits fun entry member n inside => by
      simp [answerable.unlimited entry member] at inside
  have limits := Query.forall_mem_limits_selection entity.table entity.columns inner small
  have answered := Database.answer_request answerable.formed answerable.plain holds.found checked
    limits
  have names : (q.selection entity.table entity.columns limit).names t = entity.columns := by
    rw [Select.names, Query.selection, holds.filled]
    exact holds.named
  obtain ⟨chosen, choice, rows⟩ := Select.exists_chosen entity.columns (Entry.toExpr? q.entries)
    q.orderings (limit.map UInt64.toNat) holds.found holds.rows
  rw [names, Query.selection, rows] at answered
  have served := @Database.store_of_answer_ok db (q.request entity.table entity.columns limit) _
    answered
  refine ⟨chosen, choice, ?_⟩
  rw [q.run_of_ok served]
  apply congrArg Except.ok
  rw [List.map_map]
  apply List.map_congr_left
  intro r _
  simp [Scope.project, holds.filled]

theorem result_get (holds : Holds db entity t values record records)
    (answerable : q.Answerable db entity t) :
    ∃ chosen, q.Chosen db t values records chosen ∧
      (q.get db.store entity).result = .ok (chosen.head?.map record) := by
  obtain ⟨chosen, choice, ran⟩ := holds.result_run answerable
    (show ∀ n ∈ some (1 : UInt64), n.toNat ≤ Database.largestLimit by
      simp [Database.largestLimit])
  refine ⟨chosen, choice, Execution.result_reading ran ?_⟩
  cases chosen with
  | nil => rfl
  | cons r rest =>
      have read := holds.read r
      simp [limited, read, Except.map]

theorem mapM_read (holds : Holds db entity t values record records) (chosen : List α) :
    (chosen.map fun r => Row.mk entity.columns (entity.columns.map fun name =>
      (Scope.value [⟨t.columns, values r⟩] name).cell)).mapM entity.mapper =
        .ok (chosen.map record) := by
  apply mapM_of_map_eq
  rw [List.map_map, List.map_map]
  exact List.map_congr_left fun r _ => holds.read r

/-- All records that the condition admits, as many as the limit lets through. -/
theorem result_getList (holds : Holds db entity t values record records)
    (answerable : q.Answerable db entity t)
    (small : ∀ n ∈ q.limit, n.toNat ≤ Database.largestLimit) :
    ∃ chosen, q.Chosen db t values records chosen ∧
      (q.getList db.store entity).result =
        .ok ((limited (q.limit.map UInt64.toNat) chosen).map record) := by
  obtain ⟨chosen, choice, ran⟩ := holds.result_run answerable small
  exact ⟨chosen, choice, Execution.result_reading ran (holds.mapM_read _)⟩

end Holds

theorem Query.result_run_missing {db : Database} {q : Query} {table : String}
    {columns : List String} (limit : Option UInt64) (formed : q.WellFormed)
    (plain : q.PlainNames table columns) (missing : db.table? table = none) :
    ∃ error, (q.run db.store table columns limit).result = .error error := by
  have failed := @Database.store_of_answer_error db (q.request table columns limit) _ _
    (Database.answer_request_missing formed plain missing)
  rw [q.run_of_error failed]
  exact ⟨_, rfl⟩

theorem Query.result_get_missing {α : Type} {db : Database} {q : Query} {entity : Entity α}
    (formed : q.WellFormed) (plain : q.PlainNames entity.table entity.columns)
    (missing : db.table? entity.table = none) :
    ∃ error, (q.get db.store entity).result = .error error := by
  obtain ⟨error, failed⟩ := q.result_run_missing (some 1) formed plain missing
  exact ⟨error, Execution.result_reading_error _ failed⟩

theorem Query.result_getList_missing {α : Type} {db : Database} {q : Query} {entity : Entity α}
    (formed : q.WellFormed) (plain : q.PlainNames entity.table entity.columns)
    (missing : db.table? entity.table = none) :
    ∃ error, (q.getList db.store entity).result = .error error := by
  obtain ⟨error, failed⟩ := q.result_run_missing q.limit formed plain missing
  exact ⟨error, Execution.result_reading_error _ failed⟩

end Criteria
