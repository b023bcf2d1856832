import Criteria.Proofs.Extending

/-!
Conditions in their places. A place leads to a condition through groups and subqueries, and what is
done to the condition there shows in the clause there alone. So its negation puts a `NOT` in front
of one column, or takes it away.
-/

namespace Criteria

/-- Where a condition stands: the number of its entry, or that of the entry whose group or subquery
it is in, and its place there. -/
inductive Place
  | entry (i : Nat)
  | within (i : Nat) (place : Place)

namespace Node

def condition? : Node → Option Condition
  | .condition c => some c
  | .group _ => none

/-- The entries of a group, or of the subquery of a condition. -/
def inner : Node → List Entry
  | .condition ⟨_, _, .subquery _ query⟩ => query.entries
  | .condition _ => []
  | .group entries => entries

def alter (f : Condition → Condition) : Node → Node
  | .condition c => .condition (f c)
  | .group entries => .group entries

def alterInner (f : List Entry → List Entry) : Node → Node
  | .condition ⟨column, op, .subquery table ⟨entries, projection, orderings, limit⟩⟩ =>
      .condition ⟨column, op, .subquery table ⟨f entries, projection, orderings, limit⟩⟩
  | .condition c => .condition c
  | .group entries => .group (f entries)

theorem eq_condition_of_condition? {node : Node} {condition : Condition}
    (stands : node.condition? = some condition) : node = .condition condition := by
  cases node with
  | condition other =>
      cases stands
      rfl
  | group entries => cases stands

theorem alter_id : alter id = id := by
  funext node
  cases node <;> rfl

theorem alter_comp (f g : Condition → Condition) : alter g ∘ alter f = alter (g ∘ f) := by
  funext node
  cases node <;> rfl

theorem alterInner_id : alterInner id = id := by
  funext node
  cases node with
  | condition condition =>
      obtain ⟨column, op, value⟩ := condition
      cases value with
      | subquery table query => cases query; rfl
      | _ => rfl
  | group entries => rfl

theorem alterInner_comp (f g : List Entry → List Entry) :
    alterInner g ∘ alterInner f = alterInner (g ∘ f) := by
  funext node
  cases node with
  | condition condition =>
      obtain ⟨column, op, value⟩ := condition
      cases value with
      | subquery table query => cases query; rfl
      | _ => rfl
  | group entries => rfl

theorem inner_alterInner (f : List Entry → List Entry) {node : Node}
    (filled : node.inner ≠ []) : (node.alterInner f).inner = f node.inner := by
  cases node with
  | condition condition =>
      obtain ⟨column, op, value⟩ := condition
      cases value with
      | subquery table query => cases query; rfl
      | _ => exact absurd rfl filled
  | group entries => rfl

/-- Other entries inside of a node leave what the node writes around them. -/
theorem clause_alterInner {node : Node} (filled : node.inner ≠ []) :
    ∃ before after : Clause, ∀ f : List Entry → List Entry, f node.inner ≠ [] →
      (node.alterInner f).clause = before ++ Entry.joinedClause (f node.inner) ++ after := by
  cases node with
  | condition condition =>
      obtain ⟨column, op, value⟩ := condition
      cases value with
      | subquery table query =>
          obtain ⟨entries, projection, orderings, limit⟩ := query
          -- With entries inside there is a `WHERE`, before the change and after it.
          refine ⟨.literal ((if op.negated then "NOT " else "") ++ column) ++ .literal " IN (" ++
              .literal ("SELECT " ++ projection.getD "*" ++ " FROM " ++ table) ++
              .literal " WHERE ",
            SortKey.orderClause orderings ++ limitClause limit ++ .literal ")", fun f kept => ?_⟩
          have kept : ¬ (f entries).isEmpty = true := by simpa [inner] using kept
          rw [alterInner, clause, Condition.clause, Value.clause, Query.selectClause, if_neg kept]
          simp only [inner, Clause.append_assoc]
      | _ => exact absurd rfl filled
  | group entries =>
      exact ⟨.literal "(", .literal ")", fun f _ => by rw [alterInner, clause, inner]⟩

theorem WellFormed.alter {node : Node} {f : Condition → Condition} (formed : node.WellFormed)
    (keeps : ∀ condition : Condition, condition.WellFormed → (f condition).WellFormed) :
    (node.alter f).WellFormed := by
  cases node with
  | condition condition =>
      rw [Node.WellFormed] at formed
      rw [Node.alter, Node.WellFormed]
      exact keeps condition formed
  | group entries => exact formed

theorem WellFormed.alterInner {node : Node} {f : List Entry → List Entry}
    (formed : node.WellFormed) (filled : ∀ entries, entries ≠ [] → f entries ≠ [])
    (keeps : ∀ entries, Entry.AllWellFormed entries → Entry.AllWellFormed (f entries)) :
    (node.alterInner f).WellFormed := by
  cases node with
  | condition condition =>
      obtain ⟨column, op, value⟩ := condition
      cases value with
      | subquery table query =>
          obtain ⟨entries, projection, orderings, limit⟩ := query
          rw [Node.WellFormed, Condition.WellFormed, Value.WellFormed, Query.WellFormed] at formed
          rw [Node.alterInner, Node.WellFormed, Condition.WellFormed, Value.WellFormed,
            Query.WellFormed]
          exact ⟨formed.1, formed.2.1, formed.2.2.1, keeps entries formed.2.2.2⟩
      | _ => exact formed
  | group entries =>
      rw [Node.WellFormed] at formed
      rw [Node.alterInner, Node.WellFormed]
      exact ⟨filled entries formed.1, keeps entries formed.2⟩

end Node

namespace Entry

def alter (f : Node → Node) (entry : Entry) : Entry :=
  { entry with node := f entry.node }

theorem alter_id : alter id = id := by
  funext entry
  cases entry
  rfl

theorem alter_comp (f g : Node → Node) : alter g ∘ alter f = alter (g ∘ f) := rfl

def conditionAt? : Place → List Entry → Option Condition
  | .entry i, entries => entries[i]?.bind fun entry => entry.node.condition?
  | .within i place, entries => entries[i]?.bind fun entry => conditionAt? place entry.node.inner

/-- Changes the condition in the place. Where there is none, nothing is changed. -/
def alterAt (f : Condition → Condition) : Place → List Entry → List Entry
  | .entry i, entries => entries.modify i (alter (Node.alter f))
  | .within i place, entries => entries.modify i (alter (Node.alterInner (alterAt f place)))

variable {place : Place} {entries : List Entry} {condition : Condition}

theorem ne_nil_of_conditionAt? (stands : conditionAt? place entries = some condition) :
    entries ≠ [] := by
  rintro rfl
  cases place <;> simp [conditionAt?] at stands

theorem alterAt_ne_nil (f : Condition → Condition) (place : Place) (filled : entries ≠ []) :
    alterAt f place entries ≠ [] := by
  cases place <;> simpa [alterAt, List.modify_eq_nil_iff] using filled

theorem alterAt_id (place : Place) : alterAt id place = id := by
  induction place with
  | entry i =>
      funext entries
      rw [alterAt, Node.alter_id, alter_id, List.modify_id, id]
  | within i place induction =>
      funext entries
      rw [alterAt, induction, Node.alterInner_id, alter_id, List.modify_id, id]

theorem alterAt_comp (f g : Condition → Condition) (place : Place) :
    alterAt g place ∘ alterAt f place = alterAt (g ∘ f) place := by
  induction place with
  | entry i =>
      funext entries
      rw [Function.comp, alterAt, alterAt, alterAt, List.modify_modify_eq, alter_comp,
        Node.alter_comp]
  | within i place induction =>
      funext entries
      rw [Function.comp, alterAt, alterAt, alterAt, List.modify_modify_eq, alter_comp,
        Node.alterInner_comp, induction]

theorem conditionAt?_alterAt (f : Condition → Condition)
    (stands : conditionAt? place entries = some condition) :
    conditionAt? place (alterAt f place entries) = some (f condition) := by
  induction place generalizing entries with
  | entry i =>
      obtain ⟨entry, here, is⟩ := Option.bind_eq_some_iff.mp stands
      have node := Node.eq_condition_of_condition? is
      simp [conditionAt?, alterAt, here, alter, node, Node.alter, Node.condition?]
  | within i place induction =>
      obtain ⟨entry, here, inside⟩ := Option.bind_eq_some_iff.mp stands
      have filled := ne_nil_of_conditionAt? inside
      simp [conditionAt?, alterAt, here, alter, Node.inner_alterInner _ filled, induction inside]

theorem AllWellFormed.modify {f : Node → Node} (formed : AllWellFormed entries) (i : Nat)
    (keeps : ∀ node : Node, node.WellFormed → (f node).WellFormed) :
    AllWellFormed (entries.modify i (alter f)) := by
  rw [allWellFormed_iff] at formed ⊢
  intro entry member
  obtain ⟨j, there⟩ := List.mem_iff_getElem?.mp member
  rw [List.getElem?_modify] at there
  obtain ⟨before, stood, rfl⟩ := Option.map_eq_some_iff.mp there
  have kept := formed before (List.mem_of_getElem? stood)
  split
  · exact keeps _ kept
  · exact kept

theorem AllWellFormed.alterAt {f : Condition → Condition} (place : Place)
    (formed : AllWellFormed entries)
    (keeps : ∀ condition : Condition, condition.WellFormed → (f condition).WellFormed) :
    AllWellFormed (Entry.alterAt f place entries) := by
  induction place generalizing entries with
  | entry i => exact formed.modify i fun node kept => kept.alter keeps
  | within i place induction =>
      exact formed.modify i fun node kept =>
        kept.alterInner (fun _ filled => alterAt_ne_nil f place filled) fun _ => induction

theorem joinedClause_around (first rest : List Entry) (connector : Connector) :
    ∃ before after : Clause, ∀ node : Node,
      joinedClause (first ++ ⟨connector, node⟩ :: rest) = before ++ node.clause ++ after := by
  refine ⟨joinedClause first ++
      (if first.isEmpty then .empty else .literal (" " ++ connector.keyword ++ " ")),
    followingClause rest, fun node => ?_⟩
  rw [joinedClause_append, addedClause]
  cases first.isEmpty <;> simp [joinedClause, followingClause, Clause.append_assoc]

theorem joinedClause_modify {i : Nat} {entry : Entry} (here : entries[i]? = some entry) :
    ∃ before after : Clause, ∀ f : Node → Node,
      joinedClause (entries.modify i (alter f)) = before ++ (f entry.node).clause ++ after := by
  obtain ⟨inside, rfl⟩ := List.getElem?_eq_some_iff.mp here
  obtain ⟨before, after, around⟩ :=
    joinedClause_around (entries.take i) (entries.drop (i + 1)) entries[i].connector
  exact ⟨before, after, fun f => by rw [List.modify_eq_take_cons_drop inside]; exact around _⟩

/-- What stands before and behind a place does not hang on the condition there. -/
theorem joinedClause_alterAt (stands : conditionAt? place entries = some condition) :
    ∃ before after : Clause, ∀ f : Condition → Condition,
      joinedClause (alterAt f place entries) = before ++ (f condition).clause ++ after := by
  induction place generalizing entries with
  | entry i =>
      obtain ⟨entry, here, is⟩ := Option.bind_eq_some_iff.mp stands
      obtain ⟨before, after, around⟩ := joinedClause_modify here
      refine ⟨before, after, fun f => ?_⟩
      rw [alterAt, around, Node.eq_condition_of_condition? is, Node.alter, Node.clause]
  | within i place induction =>
      obtain ⟨entry, here, inside⟩ := Option.bind_eq_some_iff.mp stands
      have filled := ne_nil_of_conditionAt? inside
      obtain ⟨before, after, around⟩ := induction inside
      obtain ⟨opening, closing, within⟩ := Node.clause_alterInner filled
      obtain ⟨first, last, whole⟩ := joinedClause_modify here
      -- From the outside in: the sequence, the node with its parentheses, the entries inside.
      refine ⟨first ++ opening ++ before, after ++ closing ++ last, fun f => ?_⟩
      rw [alterAt, whole, within _ (alterAt_ne_nil f place filled), around]
      simp only [Clause.append_assoc]

end Entry

namespace Condition

def negate (condition : Condition) : Condition :=
  { condition with op := condition.op.negate }

theorem negate_comp_negate : negate ∘ negate = id := by
  funext condition
  cases condition
  simp [negate]

theorem WellFormed.negate {condition : Condition} (formed : condition.WellFormed) :
    condition.negate.WellFormed := by
  obtain ⟨column, op, value⟩ := condition
  rw [WellFormed] at formed
  rw [Condition.negate, WellFormed]
  refine ⟨formed.1, ?_⟩
  cases value <;> simpa only [Value.WellFormed, Op.isMembership_negate] using formed.2

theorem selection_clause (condition : Condition) :
    condition.clause.selection =
      (if condition.op.negated then "NOT " else "") ++ condition.column ++
        (condition.value.clause condition.op.symbol).selection := by
  obtain ⟨column, op, value⟩ := condition
  rw [clause, Clause.selection_append, Clause.selection_literal]

theorem arguments_clause_negate (condition : Condition) :
    condition.negate.clause.arguments = condition.clause.arguments := by
  obtain ⟨column, op, value⟩ := condition
  simp [negate, clause]

end Condition

namespace Query

def conditionAt? (q : Query) (place : Place) : Option Condition :=
  Entry.conditionAt? place q.entries

def alterAt (q : Query) (place : Place) (f : Condition → Condition) : Query :=
  { q with entries := Entry.alterAt f place q.entries }

def negateAt (q : Query) (place : Place) : Query :=
  q.alterAt place .negate

theorem alterAt_id (q : Query) (place : Place) : q.alterAt place id = q := by
  cases q
  rw [alterAt, Entry.alterAt_id, id]

theorem alterAt_alterAt (q : Query) (place : Place) (f g : Condition → Condition) :
    (q.alterAt place f).alterAt place g = q.alterAt place (g ∘ f) := by
  simp only [alterAt, ← Entry.alterAt_comp, Function.comp_apply]

theorem negateAt_negateAt (q : Query) (place : Place) :
    (q.negateAt place).negateAt place = q := by
  rw [negateAt, negateAt, alterAt_alterAt, Condition.negate_comp_negate, alterAt_id]

theorem Reachable.negateAt {q : Query} (reachable : q.Reachable) (place : Place) :
    (q.negateAt place).Reachable := by
  rw [reachable_iff_wellFormed, wellFormed_iff] at reachable ⊢
  exact reachable.alterAt place fun _ formed => formed.negate

/-- In every place of a query the negation of the condition there can be built too. It has the same
arguments, its text has a `NOT` more or less directly in front of the column of that condition and
nowhere else, and to negate again gives the query back. -/
theorem negateAt_toggles {q : Query} {place : Place} {condition : Condition}
    (reachable : q.Reachable) (stands : q.conditionAt? place = some condition) :
    (q.negateAt place).Reachable ∧
      (q.negateAt place).conditionAt? place =
        some ⟨condition.column, condition.op.negate, condition.value⟩ ∧
      (q.negateAt place).compile.arguments = q.compile.arguments ∧
      (∃ (before after : Clause) (rest : String),
        (∀ f : Condition → Condition,
          (q.alterAt place f).compile = before ++ (f condition).clause ++ after) ∧
        if condition.op.negated then
          q.compile.selection = before.selection ++ "NOT " ++ condition.column ++ rest ∧
            (q.negateAt place).compile.selection = before.selection ++ condition.column ++ rest
        else
          q.compile.selection = before.selection ++ condition.column ++ rest ∧
            (q.negateAt place).compile.selection =
              before.selection ++ "NOT " ++ condition.column ++ rest) ∧
      (q.negateAt place).negateAt place = q := by
  obtain ⟨before, after, around⟩ := Entry.joinedClause_alterAt stands
  have altered (f : Condition → Condition) :
      (q.alterAt place f).compile = before ++ (f condition).clause ++ after := around f
  have plain : q.compile = before ++ condition.clause ++ after := by
    simpa only [q.alterAt_id, id] using altered id
  have negated : (q.negateAt place).compile = before ++ condition.negate.clause ++ after :=
    altered .negate
  refine ⟨reachable.negateAt place, Entry.conditionAt?_alterAt .negate stands, ?_,
    ⟨before, after, (condition.value.clause condition.op.symbol).selection ++ after.selection,
      altered, ?_⟩, q.negateAt_negateAt place⟩
  · simp [plain, negated, condition.arguments_clause_negate]
  · cases mark : condition.op.negated <;>
      simp [plain, negated, Condition.selection_clause, Condition.negate, Op.negate, mark,
        Op.symbol, String.append_assoc]

private def homeLists : Query :=
  (Query.empty.select "_id").push .or ⟨"name", ⟨.like, true⟩, .scalar (.text "Home%")⟩

private def milkOrHome : Query :=
  (Query.empty.push .and ⟨"name", .plain .eq, .scalar (.text "milk")⟩).push .or
    ⟨"list_id", .plain .member, .subquery "lists" homeLists⟩

private def groceries : Query :=
  (Query.empty.push .and ⟨"name", .plain .eq, .scalar (.text "bread")⟩).pushGroup .or milkOrHome

private theorem groceries_reachable : groceries.Reachable := by
  have named := @Reachable.push _ "name" ⟨.like, true⟩ (.scalar (.text "Home%")) _ .or
    (.select "_id" .empty) (.scalar _) rfl
  have milk := @Reachable.push _ "name" (.plain .eq) (.scalar (.text "milk")) _ .and .empty
    (.scalar _) rfl
  have listed := @Reachable.push _ "list_id" (.plain .member) (.subquery "lists" homeLists) _ .or
    milk (.subquery "lists" named) rfl
  have bread := @Reachable.push _ "name" (.plain .eq) (.scalar (.text "bread")) _ .and .empty
    (.scalar _) rfl
  exact bread.pushGroup .or listed

/-- The condition of the subquery in the group. Its column is that of two others too. -/
private def innermost : Place :=
  .within 1 (.within 1 (.entry 0))

theorem negateAt_toggles_innermost :
    groceries.Reachable ∧
      groceries.conditionAt? innermost =
        some ⟨"name", ⟨.like, true⟩, .scalar (.text "Home%")⟩ ∧
      groceries.compile.selection = "name = ? OR (name = ? OR list_id IN (SELECT _id FROM lists " ++
        "WHERE NOT name LIKE ?))" ∧
      (groceries.negateAt innermost).compile.selection = "name = ? OR (name = ? OR list_id IN " ++
        "(SELECT _id FROM lists WHERE name LIKE ?))" ∧
      (groceries.negateAt innermost).Reachable ∧
      (groceries.negateAt innermost).compile.arguments = groceries.compile.arguments ∧
      (groceries.negateAt innermost).negateAt innermost = groceries := by
  have stands : groceries.conditionAt? innermost =
      some ⟨"name", ⟨.like, true⟩, .scalar (.text "Home%")⟩ := rfl
  obtain ⟨reachable, _, arguments, _, twice⟩ := negateAt_toggles groceries_reachable stands
  exact ⟨groceries_reachable, stands, rfl, rfl, reachable, arguments, twice⟩

end Query

end Criteria
