import Criteria.Proofs.Formation
import Criteria.Proofs.Records

namespace Criteria

open Criteria.Sql

/-- The column is in reach: that of the innermost table, or of one around it. -/
def Sql.Reach.Finds (reach : Reach) (name : String) : Prop :=
  ∃ columns ∈ reach, (findColumn? columns name).isSome

mutual
/-- The columns of conditions are in reach, and a subquery has its table to itself: its projection
and its sort keys are columns of that table. -/
def Value.Resolves (db : Database) (reach : Reach) : Value → Prop
  | .scalar _ => True
  | .list _ => True
  | .subquery table query => ∃ t, db.table? table = some t ∧ query.Resolves db t reach

def Query.Resolves (db : Database) (t : Table) (outer : Reach) : Query → Prop
  | ⟨entries, projection, orderings, _⟩ =>
      (∀ name ∈ projection.toList ++ orderings.map SortKey.column,
        (findColumn? t.columns name).isSome) ∧
      Entry.AllResolve db (t.columns :: outer) entries

def Node.Resolves (db : Database) (reach : Reach) : Node → Prop
  | .condition ⟨column, _, value⟩ => reach.Finds column ∧ value.Resolves db reach
  | .group entries => Entry.AllResolve db reach entries

def Entry.AllResolve (db : Database) (reach : Reach) : List Entry → Prop
  | [] => True
  | ⟨_, node⟩ :: rest => node.Resolves db reach ∧ Entry.AllResolve db reach rest
end

theorem Sql.Reach.check_of_finds {reach : Reach} {name : String} (finds : reach.Finds name) :
    reach.check name = .ok () := by
  obtain ⟨columns, member, found⟩ := finds
  exact if_pos (List.any_eq_true.mpr ⟨columns, member, found⟩)

theorem Sql.Expr.check_inSelect {db : Database} {reach : Reach} {column : String}
    {select : Select} (found : reach.check column = .ok ())
    (single : select.check db reach = .ok 1) :
    (Expr.inSelect column select).check db reach = .ok () := by
  rw [Expr.check, found, single]
  rfl

theorem Entry.check_getD_toExpr? {db : Database} {reach : Reach} {entries : List Entry}
    (filled : entries ≠ [])
    (checked : Expr.checkCondition db reach (Entry.toExpr? entries) = .ok ()) :
    ((Entry.toExpr? entries).getD default).check db reach = .ok () := by
  cases entries with
  | nil => exact absurd rfl filled
  | cons entry rest =>
      obtain ⟨connector, node⟩ := entry
      rw [Entry.toExpr?] at checked ⊢
      exact checked

mutual
theorem Value.check_toExpr {db : Database} {reach : Reach} {column : String} {op : Op}
    (found : reach.check column = .ok ()) :
    ∀ value : Value, value.WellFormed op → value.Resolves db reach →
      (value.toExpr column op.comparison).check db reach = .ok ()
  | .scalar s, _, _ => by
      rw [Value.toExpr]
      cases op.comparison.relation? <;> exact found
  | .list items, _, _ => found
  | .subquery table query, formed, resolves => by
      rw [Value.WellFormed] at formed
      rw [Value.Resolves] at resolves
      obtain ⟨t, present, inner⟩ := resolves
      exact Expr.check_inSelect found
        (Query.check_toSelect present query formed.2.2 formed.2.1 inner)

theorem Query.check_toSelect {db : Database} {outer : Reach} {table : String} {t : Table}
    (present : db.table? table = some t) :
    ∀ q : Query, q.WellFormed → q.projection.isSome → q.Resolves db t outer →
      (q.toSelect table).check db outer = .ok 1
  | ⟨entries, none, orderings, limit⟩, _, projected, _ => by simp at projected
  | ⟨entries, some column, orderings, limit⟩, formed, _, resolves => by
      rw [Query.WellFormed] at formed
      rw [Query.Resolves] at resolves
      obtain ⟨names, conditions⟩ := resolves
      have checked := Entry.checkCondition_toExpr? (Entry.check_toExpr entries formed conditions)
      exact Select.check_of_found (limit.map UInt64.toNat) present names checked

theorem Node.check_toExpr {db : Database} {reach : Reach} :
    ∀ node : Node, node.WellFormed → node.Resolves db reach →
      node.toExpr.check db reach = .ok ()
  | .condition ⟨column, op, value⟩, formed, resolves => by
      rw [Node.WellFormed, Condition.WellFormed] at formed
      rw [Node.Resolves] at resolves
      have checked := Value.check_toExpr (Reach.check_of_finds resolves.1) value formed.2 resolves.2
      rw [Node.toExpr, Condition.toExpr]
      cases op.negated <;> exact checked
  | .group entries, formed, resolves => by
      rw [Node.WellFormed] at formed
      rw [Node.Resolves] at resolves
      rw [Node.toExpr]
      exact Entry.check_getD_toExpr? formed.1
        (Entry.checkCondition_toExpr? (Entry.check_toExpr entries formed.2 resolves))

theorem Entry.check_toExpr {db : Database} {reach : Reach} :
    ∀ entries : List Entry, Entry.AllWellFormed entries → Entry.AllResolve db reach entries →
      ∀ entry ∈ entries, entry.node.toExpr.check db reach = .ok ()
  | [], _, _ => by simp
  | ⟨_, node⟩ :: rest, formed, resolves => by
      rw [Entry.AllWellFormed] at formed
      rw [Entry.AllResolve] at resolves
      intro entry member
      rcases List.mem_cons.mp member with rfl | member
      · exact Node.check_toExpr node formed.1 resolves.1
      · exact Entry.check_toExpr rest formed.2 resolves.2 entry member
end

theorem Entry.mem_conditionLimits {n : Nat} {entries : List Entry}
    (each : ∀ entry ∈ entries, ∀ n ∈ entry.node.toExpr.limits,
      ∃ m ∈ entry.node.limits, m.toNat = n)
    (member : n ∈ Expr.conditionLimits (Entry.toExpr? entries)) :
    ∃ m ∈ Entry.limits entries, m.toNat = n := by
  have written (entry : Entry) (among : entry ∈ entries) (n : Nat)
      (inside : n ∈ entry.node.toExpr.limits) : ∃ m ∈ Entry.limits entries, m.toNat = n := by
    obtain ⟨m, written, same⟩ := each entry among n inside
    exact ⟨m, Entry.mem_limits.mpr ⟨entry, among, written⟩, same⟩
  exact Entry.forall_mem_conditionLimits written n member

theorem Sql.Expr.limits_getD (condition : Option Expr) :
    (condition.getD default).limits = Expr.conditionLimits condition := by
  cases condition with
  | none => rfl
  | some condition => rw [Expr.conditionLimits, Option.getD_some]

mutual
theorem Value.mem_limits_toExpr {column : String} {comparison : Comparison} :
    ∀ value : Value, ∀ n ∈ (value.toExpr column comparison).limits,
      ∃ m ∈ value.limits, m.toNat = n
  | .scalar s, n, member => by
      rw [Value.toExpr] at member
      cases base : comparison.relation? <;> rw [base] at member <;> cases member
  | .list items, n, member => by
      rw [Value.toExpr] at member
      cases member
  | .subquery table ⟨entries, projection, orderings, limit⟩, n, member => by
      rw [Value.toExpr, Query.toSelect, Expr.limits, Select.limits, List.mem_append] at member
      rw [Value.limits, Query.limits]
      rcases member with inner | own
      · obtain ⟨m, among, same⟩ := Entry.mem_conditionLimits (Entry.mem_limits_toExpr entries) inner
        exact ⟨m, List.mem_append_left _ among, same⟩
      · obtain ⟨m, among, same⟩ := Option.map_eq_some_iff.mp (Option.mem_toList.mp own)
        exact ⟨m, List.mem_append_right _ (Option.mem_toList.mpr among), same⟩

theorem Node.mem_limits_toExpr :
    ∀ node : Node, ∀ n ∈ node.toExpr.limits, ∃ m ∈ node.limits, m.toNat = n
  | .condition ⟨column, op, value⟩, n, member => by
      rw [Node.toExpr, Condition.toExpr] at member
      rw [Node.limits, Condition.limits]
      cases negated : op.negated with
      | true =>
          rw [negated, if_pos rfl, Expr.limits] at member
          exact Value.mem_limits_toExpr value n member
      | false =>
          rw [negated, if_neg (by simp)] at member
          exact Value.mem_limits_toExpr value n member
  | .group entries, n, member => by
      rw [Node.toExpr, Expr.limits_getD] at member
      rw [Node.limits]
      exact Entry.mem_conditionLimits (Entry.mem_limits_toExpr entries) member

theorem Entry.mem_limits_toExpr :
    ∀ entries : List Entry, ∀ entry ∈ entries, ∀ n ∈ entry.node.toExpr.limits,
      ∃ m ∈ entry.node.limits, m.toNat = n
  | [] => by simp
  | ⟨_, node⟩ :: rest => by
      intro entry member
      rcases List.mem_cons.mp member with rfl | member
      · exact Node.mem_limits_toExpr node
      · exact Entry.mem_limits_toExpr rest entry member
end

namespace Sql.Database

/-- The statement of the request is prepared and has a place for each argument, and its rows are
read to the last. -/
structure Serves (db : Database) (r : Request) : Prop where
  prepared : ∃ tokens prepared, Token.ofText? r.statement = some tokens ∧
    tokens.countP Token.isPlaceholder = r.arguments.length ∧
    db.prepare (Token.bind tokens r.arguments) = .ok prepared
  read : ∃ rows, db.store r = .ok rows

/-- A text that is not a selection is refused before it runs. -/
theorem store_of_unread {db : Database} {r : Request} {tokens : List Token}
    (lexed : Token.ofText? r.statement = some tokens)
    (unread : Select.ofTokens? (Token.bind tokens r.arguments) = none) :
    db.store r = .error ⟨"failed to prepare query on '" ++ r.table ++ "'",
      some "malformed statement"⟩ := by
  have refused : db.answer r.statement r.arguments = .error (.prepare, .malformed) := by
    rw [answer, lexed, Option.getD_some, prepare, unread]
    rfl
  exact store_of_answer_error refused

end Sql.Database

namespace Query

variable {α : Type}

/-- The tables and columns that the query is about are there, and no limit in it is too large. -/
structure Known (q : Query) (db : Database) (entity : Entity α) (t : Table) : Prop where
  found : db.table? entity.table = some t
  columns : ∀ name ∈ entity.idColumn :: entity.columns, (findColumn? t.columns name).isSome
  orderings : ∀ key ∈ q.orderings, (findColumn? t.columns key.column).isSome
  conditions : Entry.AllResolve db [t.columns] q.entries
  limits : ∀ n ∈ q.limits, n.toNat ≤ Database.largestLimit

variable {q : Query} {db : Database} {entity : Entity α} {t : Table} {columns : List String}
  {limit : Option UInt64}

theorem Known.limits_le (known : q.Known db entity t) :
    ∀ n ∈ Entry.limits q.entries, n.toNat ≤ Database.largestLimit := by
  intro n among
  refine known.limits n ?_
  rw [q.limits_eq]
  exact List.mem_append_left _ among

theorem Known.limit_le (known : q.Known db entity t) :
    ∀ n ∈ q.limit, n.toNat ≤ Database.largestLimit := by
  intro n own
  refine known.limits n ?_
  rw [q.limits_eq]
  exact List.mem_append_right _ (Option.mem_toList.mpr own)

theorem Known.serves (known : q.Known db entity t) (formed : q.WellFormed)
    (plain : q.PlainNames entity.table columns)
    (asked : ∀ name ∈ columns, name ∈ entity.idColumn :: entity.columns)
    (small : ∀ n ∈ limit, n.toNat ≤ Database.largestLimit) :
    db.Serves (q.request entity.table columns limit) := by
  have formedEntries := (Query.wellFormed_iff q).mp formed
  have conditions := Entry.checkCondition_toExpr?
    (Entry.check_toExpr q.entries formedEntries known.conditions)
  have names : ∀ name ∈ columns ++ q.orderings.map SortKey.column,
      (findColumn? t.columns name).isSome := by
    refine List.forall_mem_append.mpr ⟨fun name member => known.columns name (asked name member),
      List.forall_mem_map.mpr known.orderings⟩
  have checked := Select.check_of_found (limit.map UInt64.toNat) known.found names conditions
  have inner : ∀ n ∈ Expr.conditionLimits (Entry.toExpr? q.entries),
      n ≤ Database.largestLimit := by
    intro n member
    obtain ⟨m, among, rfl⟩ :=
      Entry.mem_conditionLimits (Entry.mem_limits_toExpr q.entries) member
    exact known.limits_le m among
  obtain ⟨tokens, lexed, counted, prepared⟩ :=
    Database.prepare_request formed plain known.found checked
  have answered := Database.answer_request formed plain known.found checked
    (forall_mem_limits_selection entity.table columns inner small)
  exact ⟨⟨tokens, _, lexed, counted, prepared⟩, ⟨_, Database.store_of_answer_ok answered⟩⟩

theorem get_error_of_answer {store : Store} {rows : List Row} {error : QueryError}
    (answer : store (q.request entity.table entity.columns (some 1)) = .ok rows)
    (failed : (q.get store entity).result = .error error) :
    ∃ fault, error = .mapping fault ∧ ∃ row ∈ rows.head?, entity.mapper row = .error fault := by
  cases rows with
  | nil => simp [q.result_get_nil answer] at failed
  | cons row rest =>
      rw [q.result_get_cons answer, mapError_eq_error_iff] at failed
      obtain ⟨fault, same, read⟩ := failed
      refine ⟨fault, same, row, rfl, ?_⟩
      cases mapped : entity.mapper row with
      | ok item => simp [mapped, Except.map] at read
      | error other =>
          rw [mapped] at read
          cases read
          rfl

theorem getList_error_of_answer {store : Store} {rows : List Row} {error : QueryError}
    (answer : store (q.request entity.table entity.columns q.limit) = .ok rows)
    (failed : (q.getList store entity).result = .error error) :
    ∃ fault, error = .mapping fault ∧ FirstFault entity.mapper rows fault := by
  rw [q.result_getList_of_answer answer, mapError_eq_error_iff] at failed
  obtain ⟨fault, same, read⟩ := failed
  exact ⟨fault, same, mapM_eq_error_iff.mp read⟩

/-- Every call on tables and columns that exist, with names that can stand in a statement, is
answered. The one thing that can fail is the entity on a row of the answer, and a count has none to
read. -/
theorem answered_of_known (reachable : q.Reachable) (known : q.Known db entity t)
    (plain : q.PlainNames entity.table (entity.idColumn :: entity.columns)) :
    db.Serves (q.request entity.table entity.columns (some 1)) ∧
      db.Serves (q.request entity.table entity.columns q.limit) ∧
      db.Serves (q.request entity.table [entity.idColumn] none) ∧
      (∀ error, (q.get db.store entity).result = .error error →
        ∃ rows fault, db.store (q.request entity.table entity.columns (some 1)) = .ok rows ∧
          error = .mapping fault ∧ ∃ row ∈ rows.head?, entity.mapper row = .error fault) ∧
      (∀ error, (q.getList db.store entity).result = .error error →
        ∃ rows fault, db.store (q.request entity.table entity.columns q.limit) = .ok rows ∧
          error = .mapping fault ∧ FirstFault entity.mapper rows fault) ∧
      ∃ n, (q.count db.store entity).result = .ok n := by
  have formed := reachable.wellFormed
  have columns : q.PlainNames entity.table entity.columns :=
    { plain with columns := fun name member => plain.columns name (by simp [member]) }
  have id : q.PlainNames entity.table [entity.idColumn] :=
    { plain with columns := fun name member => plain.columns name (by simp_all) }
  have first : db.Serves (q.request entity.table entity.columns (some 1)) :=
    known.serves formed columns (fun name member => by simp [member])
      (by simp [Database.largestLimit])
  have all : db.Serves (q.request entity.table entity.columns q.limit) :=
    known.serves formed columns (fun name member => by simp [member])
      known.limit_le
  have counted : db.Serves (q.request entity.table [entity.idColumn] none) :=
    known.serves formed id (fun name member => by simp_all) (by simp)
  refine ⟨first, all, counted, fun error failed => ?_, fun error failed => ?_, ?_⟩
  · obtain ⟨rows, answer⟩ := first.read
    obtain ⟨fault, same, read⟩ := get_error_of_answer answer failed
    exact ⟨rows, fault, answer, same, read⟩
  · obtain ⟨rows, answer⟩ := all.read
    obtain ⟨fault, same, read⟩ := getList_error_of_answer answer failed
    exact ⟨rows, fault, answer, same, read⟩
  · obtain ⟨rows, answer⟩ := counted.read
    exact ⟨rows.length, q.result_count_of_answer answer⟩

private def plays : Table where
  name := "plays"
  columns := [{ name := "_id", affinity := .integer }, { name := "title", affinity := .text },
    { name := "acts", affinity := .integer }]
  rows := [[.integer 1, .ofString "Hamlet", .integer 5], [.integer 2, .null, .null]]

private def stages : Table where
  name := "stages"
  columns := [{ name := "play", affinity := .integer }, { name := "town", affinity := .text }]
  rows := [[.integer 2, .ofString "London"]]

private def season : Database where
  tables := [plays, stages]

private def playEntity : Entity (List Field) :=
  .ofFields "plays" "_id" ["_id", "title"] [(.integer, "_id"), (.text, "title")]

/-- The subquery asks for `acts`, a column of the table around it. -/
private def staged : Query :=
  (((Query.empty.select "play").push .and ⟨"town", .plain .like, .scalar (.text "L%")⟩).push .or
    ⟨"acts", ⟨.ge, true⟩, .scalar (.int 4)⟩).orderDesc "town" |>.withLimit 3

private def repertoire : Query :=
  ((Query.empty.push .and ⟨"acts", .plain .member, .list []⟩).pushGroup .or
    (Query.empty.push .and ⟨"_id", ⟨.member, true⟩, .subquery "stages" staged⟩)).orderAsc "title"

private theorem repertoire_reachable : repertoire.Reachable := by
  have town := @Reachable.push _ "town" (.plain .like) (.scalar (.text "L%")) _ .and
    (.select "play" .empty) (.scalar _) rfl
  have acts := @Reachable.push _ "acts" ⟨.ge, true⟩ (.scalar (.int 4)) _ .or town (.scalar _) rfl
  have staged : staged.Reachable := (acts.orderDesc "town").withLimit 3
  have none := @Reachable.push _ "acts" (.plain .member) (.list []) _ .and .empty (.list _) rfl
  have shown := @Reachable.push _ "_id" ⟨.member, true⟩ (.subquery "stages" Query.staged) _ .and
    .empty (.subquery "stages" staged) rfl
  exact (none.pushGroup .or shown).orderAsc "title"

private theorem repertoire_known : repertoire.Known season playEntity plays where
  found := by decide
  columns := by decide
  orderings := by decide
  conditions := by
    have inner : (∀ name ∈ ["play", "town"], (findColumn? stages.columns name).isSome) := by decide
    have town : Reach.Finds [stages.columns, plays.columns] "town" :=
      ⟨stages.columns, by simp, by decide⟩
    have acts : Reach.Finds [stages.columns, plays.columns] "acts" :=
      ⟨plays.columns, by simp, by decide⟩
    exact ⟨⟨⟨plays.columns, by simp, by decide⟩, trivial⟩,
      ⟨⟨⟨plays.columns, by simp, by decide⟩, stages, by decide, inner, ⟨town, trivial⟩,
        ⟨acts, trivial⟩, trivial⟩, trivial⟩, trivial⟩
  limits := by
    show ∀ n ∈ [(3 : UInt64)], n.toNat ≤ Database.largestLimit
    simp [Database.largestLimit]

private theorem repertoire_plain :
    repertoire.PlainNames "plays" ["_id", "_id", "title"] where
  table := by decide
  columns := by decide
  conditions := by decide
  orderings := by decide

/-- The second play has no title, so reading all of them can fail; counting them cannot. -/
theorem answered_of_known_repertoire :
    repertoire.Reachable ∧ repertoire.Known season playEntity plays ∧
      repertoire.PlainNames "plays" ["_id", "_id", "title"] ∧
      season.Serves (repertoire.request "plays" ["_id", "title"] none) ∧
      (∀ error, (repertoire.getList season.store playEntity).result = .error error →
        ∃ fault, error = .mapping fault) ∧
      ∃ n, (repertoire.count season.store playEntity).result = .ok n := by
  obtain ⟨_, all, _, _, reads, counts⟩ :=
    answered_of_known repertoire_reachable repertoire_known repertoire_plain
  refine ⟨repertoire_reachable, repertoire_known, repertoire_plain, all, fun error failed => ?_,
    counts⟩
  obtain ⟨_, fault, _, same, _⟩ := reads error failed
  exact ⟨fault, same⟩

private def roles : Table where
  name := "roles"
  columns := [{ name := "_id", affinity := .integer }, { name := "cast", affinity := .text }]
  rows := [[.integer 1, .ofString "Hamlet"]]

private def groups : Table where
  name := "group"
  columns := [{ name := "_id", affinity := .integer }]
  rows := [[.integer 1]]

private def theatre : Database where
  tables := [roles, groups]

private def roleEntity : Entity (List Field) :=
  .ofFields "roles" "_id" ["_id", "cast"] [(.integer, "_id"), (.text, "cast")]

private def groupEntity : Entity (List Field) :=
  .ofFields "group" "_id" ["_id"] [(.integer, "_id")]

private def roleIds : Entity (List Field) :=
  .ofFields "roles" "_id" ["_id"] [(.integer, "_id")]

private def grouped : Query :=
  Query.empty.push .and ⟨"_id", .plain .member, .subquery "group" (Query.empty.select "_id")⟩

private theorem grouped_reachable : grouped.Reachable :=
  @Reachable.push _ "_id" (.plain .member) (.subquery "group" (Query.empty.select "_id")) _ .and
    .empty (.subquery "group" (.select "_id" .empty)) rfl

private theorem empty_known (found : db.table? entity.table = some t)
    (columns : ∀ name ∈ entity.idColumn :: entity.columns, (findColumn? t.columns name).isSome) :
    Query.empty.Known db entity t :=
  ⟨found, columns, by simp [Query.empty], trivial, by simp [limits_eq, Query.empty, Entry.limits]⟩

private theorem grouped_known : grouped.Known theatre roleIds roles where
  found := by decide
  columns := by decide
  orderings := by decide
  conditions := ⟨⟨⟨roles.columns, by simp, by decide⟩, groups, by decide, by decide, trivial⟩,
    trivial⟩
  limits := by
    show ∀ n ∈ ([] : List UInt64), n.toNat ≤ Database.largestLimit
    simp

/-- A column, a table and the table of a subquery that exist, each named by a keyword: none of the
three calls is answered. -/
theorem unavailable_of_keyword :
    Query.empty.Reachable ∧ grouped.Reachable ∧
      Query.empty.Known theatre roleEntity roles ∧
      (∃ error, (Query.empty.getList theatre.store roleEntity).result =
        .error (.storageUnavailable error)) ∧
      Query.empty.Known theatre groupEntity groups ∧
      (∃ error, (Query.empty.count theatre.store groupEntity).result =
        .error (.storageUnavailable error)) ∧
      grouped.Known theatre roleIds roles ∧
      ∃ error, (grouped.getList theatre.store roleIds).result =
        .error (.storageUnavailable error) := by
  have column := @Database.store_of_unread theatre
    (Query.empty.request "roles" ["_id", "cast"] none)
    [.keyword .selectWord, .name "_id", .comma, .reserved "CAST", .keyword .fromWord, .name "roles"]
    (by show Token.ofText? "SELECT _id, cast FROM roles" = _; rfl) (by rfl)
  have table := @Database.store_of_unread theatre (Query.empty.request "group" ["_id"] none)
    [.keyword .selectWord, .name "_id", .keyword .fromWord, .reserved "GROUP"]
    (by show Token.ofText? "SELECT _id FROM group" = _; rfl) (by rfl)
  have inner := @Database.store_of_unread theatre (grouped.request "roles" ["_id"] none)
    [.keyword .selectWord, .name "_id", .keyword .fromWord, .name "roles", .keyword .whereWord,
      .name "_id", .keyword .inWord, .leftParen, .keyword .selectWord, .name "_id",
      .keyword .fromWord, .reserved "GROUP", .rightParen]
    (by show Token.ofText? "SELECT _id FROM roles WHERE _id IN (SELECT _id FROM group)" = _; rfl)
    (by rfl)
  exact ⟨.empty, grouped_reachable,
    empty_known (by decide) (by decide),
    ⟨_, ((asks_getList Query.empty theatre.store roleEntity).failed _ column).1⟩,
    empty_known (by decide) (by decide),
    ⟨_, ((asks_count Query.empty theatre.store groupEntity).failed _ table).1⟩,
    grouped_known,
    ⟨_, ((asks_getList grouped theatre.store roleIds).failed _ inner).1⟩⟩

end Query

end Criteria
