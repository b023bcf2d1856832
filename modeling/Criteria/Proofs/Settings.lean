import Criteria.Proofs.Extending
import Criteria.Proofs.Subqueries

/-!
Settings beside conditions. What a sequence of steps makes hangs on its conditions and groups in
their order, on its sort keys in theirs, on the last projection and on the last limit, however these
are mixed. The clause shows the first of the four alone, and so does a group; a subquery shows all
of them.
-/

namespace Criteria

namespace Step

/-- Whether the step is a condition or a group. -/
def isAddition : Step → Bool
  | .condition .. | .group .. => true
  | _ => false

def key? : Step → Option SortKey
  | .orderBy column direction => some ⟨column, direction⟩
  | _ => none

def projection? : Step → Option String
  | .select column => some column
  | _ => none

def limit? : Step → Option UInt64
  | .withLimit n => some n
  | _ => none

def additions (steps : List Step) : List Step :=
  steps.filter isAddition

def keys (steps : List Step) : List SortKey :=
  steps.filterMap key?

def lastProjection? (steps : List Step) : Option String :=
  (steps.filterMap projection?).getLast?

def lastLimit? (steps : List Step) : Option UInt64 :=
  (steps.filterMap limit?).getLast?

/-- What is left of two sequences is the same when it is forgotten how their parts are mixed. -/
structure Agree (first second : List Step) : Prop where
  additions : additions first = additions second
  keys : keys first = keys second
  lastProjection : lastProjection? first = lastProjection? second
  lastLimit : lastLimit? first = lastLimit? second

/-- A condition is checked; all other steps are taken. -/
def check : Step → Except QueryError Unit
  | .condition _ column op value => (Condition.make column op value).map fun _ => ()
  | _ => .ok ()

def checkAll : List Step → Except QueryError Unit
  | [] => .ok ()
  | step :: rest => step.check.bind fun _ => checkAll rest

theorem checkAll_additions (steps : List Step) : checkAll (additions steps) = checkAll steps := by
  induction steps with
  | nil => rfl
  | cons step rest induction =>
      rw [additions] at induction ⊢
      cases step with
      | condition connector column op value =>
          rw [List.filter_cons_of_pos rfl, checkAll, checkAll, induction]
      | group connector inner => rw [List.filter_cons_of_pos rfl, checkAll, checkAll, induction]
      | _ => exact induction

theorem filterMap_entry?_additions (steps : List Step) :
    (additions steps).filterMap entry? = steps.filterMap entry? := by
  rw [additions, List.filterMap_filter]
  congr 1
  funext step
  cases step <;> rfl

end Step

namespace Query

/-- The query with all that the steps bring. Their last settings go before its own. -/
def settled (q : Query) (steps : List Step) : Query where
  entries := q.entries ++ steps.filterMap Step.entry?
  projection := (Step.lastProjection? steps).or q.projection
  orderings := q.orderings ++ Step.keys steps
  limit := (Step.lastLimit? steps).or q.limit

theorem settled_nil (q : Query) : q.settled [] = q := by
  cases q
  simp [settled, Step.lastProjection?, Step.keys, Step.lastLimit?]

theorem settled_append (q : Query) (first second : List Step) :
    q.settled (first ++ second) = (q.settled first).settled second := by
  simp only [settled, Step.lastProjection?, Step.keys, Step.lastLimit?, List.filterMap_append,
    List.getLast?_append, List.append_assoc, Option.or_assoc]

theorem settled_singleton (q : Query) (step : Step) :
    q.settled [step] =
      ⟨q.entries ++ step.entry?.toList, step.projection?.or q.projection,
        q.orderings ++ step.key?.toList, step.limit?.or q.limit⟩ := by
  cases entry : step.entry? <;> cases projection : step.projection? <;>
    cases key : step.key? <;> cases limit : step.limit? <;>
    simp [settled, Step.lastProjection?, Step.keys, Step.lastLimit?, entry, projection, key, limit]

theorem take_eq (q : Query) (step : Step) :
    q.take step = step.check.map fun _ => q.settled [step] := by
  rw [settled_singleton]
  obtain ⟨entries, projection, orderings, limit⟩ := q
  cases step with
  | condition connector column op value =>
      rw [take, add, Step.check]
      cases made : Condition.make column op value with
      | error fault => rfl
      | ok condition =>
          rw [Condition.eq_of_make made]
          simp [Except.map, push, Step.entry?, Step.projection?, Step.key?, Step.limit?]
  | group connector inner =>
      rw [take, pushGroup]
      -- An empty group adds no entry.
      split <;> simp [*, Step.check, Except.map, Step.entry?, Step.projection?, Step.key?,
        Step.limit?]
  | _ =>
      simp [take, select, orderBy, withLimit, Step.check, Except.map, Step.entry?,
        Step.projection?, Step.key?, Step.limit?]

theorem extend_eq (q : Query) (steps : List Step) :
    q.extend steps = (Step.checkAll steps).map fun _ => q.settled steps := by
  induction steps generalizing q with
  | nil => rw [settled_nil]; rfl
  | cons step rest induction =>
      have joined : q.settled (step :: rest) = (q.settled [step]).settled rest :=
        q.settled_append [step] rest
      rw [extend, take_eq, Step.checkAll, joined]
      cases step.check with
      | error fault => rfl
      | ok taken => exact induction (q.settled [step])

theorem eq_settled_of_extend {q r : Query} {steps : List Step} (extended : q.extend steps = .ok r) :
    r = q.settled steps := by
  rw [extend_eq] at extended
  cases checked : Step.checkAll steps with
  | error fault => simp [checked, Except.map] at extended
  | ok taken => simpa [checked, Except.map] using extended.symm

section

variable {first second : List Step}

theorem entries_of_additions (same : Step.additions first = Step.additions second) :
    first.filterMap Step.entry? = second.filterMap Step.entry? := by
  rw [← Step.filterMap_entry?_additions first, same, Step.filterMap_entry?_additions]

theorem checkAll_of_additions (same : Step.additions first = Step.additions second) :
    Step.checkAll first = Step.checkAll second := by
  rw [← Step.checkAll_additions first, same, Step.checkAll_additions]

theorem extend_of_agree (agree : Step.Agree first second) (q : Query) :
    q.extend first = q.extend second := by
  have settled : q.settled first = q.settled second := by
    simp only [settled, entries_of_additions agree.additions, agree.keys, agree.lastProjection,
      agree.lastLimit]
  rw [extend_eq, extend_eq, checkAll_of_additions agree.additions, settled]

theorem compile_extend_of_additions (same : Step.additions first = Step.additions second)
    (q : Query) : (q.extend first).map compile = (q.extend second).map compile := by
  have written : (q.settled first).compile = (q.settled second).compile := by
    rw [compile, compile, settled, settled, entries_of_additions same]
  rw [extend_eq, extend_eq, checkAll_of_additions same]
  cases Step.checkAll second with
  | error fault => rfl
  | ok taken => exact congrArg Except.ok written

theorem pushGroup_of_additions (same : Step.additions first = Step.additions second)
    {q group other : Query} (extended : q.extend first = .ok group)
    (also : q.extend second = .ok other) (base : Query) (connector : Connector) :
    base.pushGroup connector group = base.pushGroup connector other := by
  have entries : group.entries = other.entries := by
    rw [eq_settled_of_extend extended, eq_settled_of_extend also]
    simp only [settled, entries_of_additions same]
  rw [pushGroup, pushGroup, isEmpty, isEmpty, entries]

end

theorem settings_pushGroup (base group : Query) (connector : Connector) :
    (base.pushGroup connector group).projection = base.projection ∧
      (base.pushGroup connector group).orderings = base.orderings ∧
      (base.pushGroup connector group).limit = base.limit := by
  unfold pushGroup
  split <;> exact ⟨rfl, rfl, rfl⟩

theorem settings_of_extend {q : Query} {steps : List Step} (extended : empty.extend steps = .ok q) :
    q.projection = Step.lastProjection? steps ∧ q.orderings = Step.keys steps ∧
      q.limit = Step.lastLimit? steps := by
  rw [eq_settled_of_extend extended]
  simp [settled, empty]

/-- Steps can be mixed in every way that leaves the order of the additions, that of the sort keys
and the last of the other settings: they are refused alike or make the same query. Its clause, and
what it is as a group, hang on the additions alone, and the query that takes the group keeps its own
settings. As a subquery it shows its settings in its statement. -/
theorem settings_stand_apart :
    (∀ (q : Query) (first second : List Step), Step.Agree first second →
      q.extend first = q.extend second) ∧
      (∀ (q : Query) (first second : List Step), Step.additions first = Step.additions second →
        (q.extend first).map compile = (q.extend second).map compile) ∧
      (∀ (base q group other : Query) (connector : Connector) (first second : List Step),
        Step.additions first = Step.additions second → q.extend first = .ok group →
          q.extend second = .ok other →
            base.pushGroup connector group = base.pushGroup connector other ∧
              (base.pushGroup connector group).projection = base.projection ∧
              (base.pushGroup connector group).orderings = base.orderings ∧
              (base.pushGroup connector group).limit = base.limit) ∧
      ∀ (q : Query) (steps : List Step), empty.extend steps = .ok q →
        (q.projection = Step.lastProjection? steps ∧ q.orderings = Step.keys steps ∧
          q.limit = Step.lastLimit? steps) ∧
          ∀ (column : String) (op : Op) (table projection : String),
            Step.lastProjection? steps = some projection →
              (Condition.mk column op (.subquery table q)).clause.selection =
                (if op.negated then "NOT " else "") ++ column ++ " IN (" ++
                  Request.statement
                    { table
                      columns := [projection]
                      selection := q.compile.selection
                      arguments := q.compile.arguments
                      orderBy := SortKey.orderText? (Step.keys steps)
                      limit := Step.lastLimit? steps } ++ ")" := by
  refine ⟨fun q first second agree => extend_of_agree agree q,
    fun q first second same => compile_extend_of_additions same q,
    fun base q group other connector first second same extended also =>
      ⟨pushGroup_of_additions same extended also base connector,
        settings_pushGroup base group connector⟩,
    fun q steps extended => ⟨settings_of_extend extended, ?_⟩⟩
  intro column op table projection projected
  obtain ⟨projects, orders, limits⟩ := settings_of_extend extended
  have inner := selectClause_eq_statement (projects.trans projected) table
  simp only [Condition.clause, Value.clause, inner, request, orderText?, orders, limits,
    Clause.selection_append, Clause.selection_literal, String.append_assoc]

private def undone : Step :=
  .condition .and "done" (.plain .eq) (.scalar (.bool false))

private def named : Step :=
  .group .or ((Query.empty.push .and ⟨"name", ⟨.like, true⟩, .scalar (.text "%?%")⟩).withLimit 8)

/-- The settings stand among the conditions, some of them set again later. -/
private def mixed : List Step :=
  [.select "_id", .orderBy "priority" .descending, undone, .withLimit 9, .select "list_id", named,
    .orderBy "_id" .ascending, .withLimit 3]

private def sorted : List Step :=
  [undone, named, .orderBy "priority" .descending, .orderBy "_id" .ascending, .withLimit 3,
    .select "list_id"]

private def highest : Query :=
  (Query.empty.orderDesc "_id").withLimit 1

theorem settings_stand_apart_mixed :
    Step.Agree mixed sorted ∧ empty.extend mixed = empty.extend sorted ∧
      ∃ q bare, empty.extend mixed = .ok q ∧ empty.extend [undone, named] = .ok bare ∧
        highest.pushGroup .or q = highest.pushGroup .or bare ∧
        (highest.pushGroup .or q).limit = some 1 ∧
        q.limit = some 3 ∧ bare.limit = none ∧
        (Condition.mk "_id" ⟨.member, true⟩ (.subquery "tasks" q)).clause.selection =
          "NOT _id IN (SELECT list_id FROM tasks WHERE done = ? OR (NOT name LIKE ?) " ++
            "ORDER BY priority DESC, _id ASC LIMIT 3)" := by
  have agree : Step.Agree mixed sorted := ⟨rfl, rfl, rfl, rfl⟩
  obtain ⟨mixes, _, groups, subqueries⟩ := settings_stand_apart
  obtain ⟨q, bare, extended, also, text⟩ : ∃ q bare, empty.extend mixed = .ok q ∧
      empty.extend [undone, named] = .ok bare ∧
      q.compile.selection = "done = ? OR (NOT name LIKE ?)" := ⟨_, _, rfl, rfl, rfl⟩
  obtain ⟨grouped, _, _, kept⟩ :=
    groups highest empty q bare .or mixed [undone, named] rfl extended also
  obtain ⟨⟨_, _, limit⟩, asked⟩ := subqueries q mixed extended
  obtain ⟨⟨_, _, unlimited⟩, _⟩ := subqueries bare [undone, named] also
  refine ⟨agree, mixes _ _ _ agree, q, bare, extended, also, grouped, kept, limit, unlimited, ?_⟩
  rw [asked "_id" ⟨.member, true⟩ "tasks" "list_id" rfl, text]
  rfl

end Query

end Criteria
