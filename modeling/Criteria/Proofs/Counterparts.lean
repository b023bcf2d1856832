import Criteria.Proofs.Alike

/-!
Negated orderings and the opposite orderings. `NOT column >= ?` and `column < ?` are true, false and
unknown of the same rows, so any number of them can be exchanged at any depth of a query.
-/

namespace Criteria

open Sql

def Comparison.opposite? : Comparison → Option Comparison
  | ge => some lt
  | le => some gt
  | gt => some le
  | lt => some ge
  | _ => none

/-- The opposite ordering, negated where the operator is not. -/
def Op.counterpart? (op : Op) : Option Op :=
  op.comparison.opposite?.map (⟨·, !op.negated⟩)

/-- What is not related to the value is in the opposite relation to it, and a null is in neither. -/
theorem Comparison.exists_opposite {comparison other : Comparison}
    (opposite : comparison.opposite? = some other) :
    ∃ relation relation', comparison.relation? = some relation ∧
      other.relation? = some relation' ∧
      ∀ a b, (Datum.related relation a b).not = Datum.related relation' a b := by
  have opposed {relation relation' : Relation}
      (holds : ∀ o, (!relation.holds o) = relation'.holds o) (a b : Datum) :
      (Datum.related relation a b).not = Datum.related relation' a b := by
    unfold Datum.related
    split
    · rfl
    · rw [Truth.not_ofBool, holds]
  cases comparison with
  | ge => cases opposite; exact ⟨.ge, .lt, rfl, rfl, opposed fun o => by cases o <;> rfl⟩
  | le => cases opposite; exact ⟨.le, .gt, rfl, rfl, opposed fun o => by cases o <;> rfl⟩
  | gt => cases opposite; exact ⟨.gt, .le, rfl, rfl, opposed fun o => by cases o <;> rfl⟩
  | lt => cases opposite; exact ⟨.lt, .ge, rfl, rfl, opposed fun o => by cases o <;> rfl⟩
  | _ => cases opposite

theorem Condition.alike_counterpart (db : Database) {op other : Op}
    (counterpart : op.counterpart? = some other) (column : String) (s : Scalar) :
    (Condition.mk column op (.scalar s)).toExpr.Alike db
      (Condition.mk column other (.scalar s)).toExpr := by
  obtain ⟨comparison, negated⟩ := op
  obtain ⟨opposite, opposed, rfl⟩ := Option.map_eq_some_iff.mp counterpart
  obtain ⟨relation, relation', first, second, related⟩ := Comparison.exists_opposite opposed
  have compared (scope : Scope) : (scope.compare column relation (some s.canonical)).not =
      scope.compare column relation' (some s.canonical) := related _ _
  cases negated with
  | true =>
      simp only [toExpr, Value.toExpr, first, second]
      refine ⟨fun scope => ?_, fun reach => rfl, rfl⟩
      exact compared scope
  | false =>
      simp only [toExpr, Value.toExpr, first, second]
      refine ⟨fun scope => ?_, fun reach => rfl, rfl⟩
      show scope.compare column relation _ = (scope.compare column relation' _).not
      rw [← compared, Truth.not_not]

example : Op.counterpart? ⟨.ge, true⟩ = some (.plain .lt) := by decide

mutual
/-- In a subquery conditions may be exchanged as long as the order of its rows does not decide which
of them it answers. -/
inductive Value.Exchanged (db : Database) : Value → Value → Prop
  | same (value : Value) : Value.Exchanged db value value
  | subquery (table : String) {q r : Query} (inner : Query.Exchanged db q r)
      (settled : (q.toSelect table).Settled db) :
      Value.Exchanged db (.subquery table q) (.subquery table r)

inductive Node.Exchanged (db : Database) : Node → Node → Prop
  | condition (column : String) (op : Op) {value other : Value}
      (inner : Value.Exchanged db value other) :
      Node.Exchanged db (.condition ⟨column, op, value⟩) (.condition ⟨column, op, other⟩)
  | counterpart (column : String) {op other : Op} (counterpart : op.counterpart? = some other)
      (s : Scalar) :
      Node.Exchanged db (.condition ⟨column, op, .scalar s⟩)
        (.condition ⟨column, other, .scalar s⟩)
  | group {entries others : List Entry} (inner : Entry.Exchanged db entries others) :
      Node.Exchanged db (.group entries) (.group others)

inductive Entry.Exchanged (db : Database) : List Entry → List Entry → Prop
  | nil : Entry.Exchanged db [] []
  | cons (connector : Connector) {node other : Node} {rest others : List Entry}
      (here : Node.Exchanged db node other) (later : Entry.Exchanged db rest others) :
      Entry.Exchanged db (⟨connector, node⟩ :: rest) (⟨connector, other⟩ :: others)

/-- Any number of conditions, at any depth, are replaced by their counterparts. -/
inductive Query.Exchanged (db : Database) : Query → Query → Prop
  | entries {entries others : List Entry} (projection : Option String) (orderings : List SortKey)
      (limit : Option UInt64) (inner : Entry.Exchanged db entries others) :
      Query.Exchanged db ⟨entries, projection, orderings, limit⟩
        ⟨others, projection, orderings, limit⟩
end

variable {db : Database}

structure Value.Keeps (db : Database) (value other : Value) : Prop where
  alike : ∀ column comparison,
    (value.toExpr column comparison).Alike db (other.toExpr column comparison)
  formed : ∀ op, value.WellFormed op → other.WellFormed op
  names : value.names = other.names

structure Node.Keeps (db : Database) (node other : Node) : Prop where
  alike : node.toExpr.Alike db other.toExpr
  formed : node.WellFormed → other.WellFormed
  names : node.names = other.names

structure Entry.Keeps (db : Database) (entries others : List Entry) : Prop where
  alike : Expr.AlikeWhere db (Entry.toExpr? entries) (Entry.toExpr? others)
  following : Expr.AlikeAll db (Entry.followingExprs entries) (Entry.followingExprs others)
  formed : Entry.AllWellFormed entries → Entry.AllWellFormed others
  names : Entry.names entries = Entry.names others

theorem Node.keeps_condition {value other : Value} (keeps : value.Keeps db other) (column : String)
    (op : Op) : Node.Keeps db (.condition ⟨column, op, value⟩) (.condition ⟨column, op, other⟩) where
  alike := by
    rw [Node.toExpr, Node.toExpr, Condition.toExpr, Condition.toExpr]
    split
    · exact (keeps.alike column op.comparison).not
    · exact keeps.alike column op.comparison
  formed formed := by
    rw [Node.WellFormed, Condition.WellFormed] at formed ⊢
    exact ⟨formed.1, keeps.formed op formed.2⟩
  names := by
    rw [Node.names, Node.names, Condition.names, Condition.names, keeps.names]

theorem Op.isMembership_counterpart {op other : Op} (counterpart : op.counterpart? = some other) :
    other.isMembership = false := by
  obtain ⟨comparison, negated⟩ := op
  obtain ⟨opposite, opposed, rfl⟩ := Option.map_eq_some_iff.mp counterpart
  cases comparison <;> cases opposed <;> rfl

theorem Node.keeps_counterpart {op other : Op} (counterpart : op.counterpart? = some other)
    (column : String) (s : Scalar) :
    Node.Keeps db (.condition ⟨column, op, .scalar s⟩) (.condition ⟨column, other, .scalar s⟩) where
  alike := by
    rw [Node.toExpr, Node.toExpr]
    exact Condition.alike_counterpart db counterpart column s
  formed formed := by
    rw [Node.WellFormed, Condition.WellFormed, Value.WellFormed] at formed ⊢
    exact ⟨formed.1, Op.isMembership_counterpart counterpart, formed.2.2⟩
  names := by
    rw [Node.names, Node.names, Condition.names, Condition.names]

theorem Node.keeps_group {entries others : List Entry} (keeps : Entry.Keeps db entries others)
    (filled : entries ≠ [] → others ≠ []) : Node.Keeps db (.group entries) (.group others) where
  alike := by
    rw [Node.toExpr, Node.toExpr]
    have alike := keeps.alike
    generalize Entry.toExpr? entries = condition at alike ⊢
    generalize Entry.toExpr? others = condition' at alike ⊢
    cases alike with
    | none => exact .refl default
    | some alike => exact alike
  formed formed := by
    rw [Node.WellFormed] at formed ⊢
    exact ⟨filled formed.1, keeps.formed formed.2⟩
  names := by
    rw [Node.names, Node.names, keeps.names]

theorem Entry.keeps_cons {node other : Node} {rest others : List Entry} (here : node.Keeps db other)
    (later : Entry.Keeps db rest others) (connector : Connector) :
    Entry.Keeps db (⟨connector, node⟩ :: rest) (⟨connector, other⟩ :: others) where
  alike := by
    rw [Entry.toExpr?, Entry.toExpr?]
    exact .some (Expr.alike_joined here.alike later.following)
  following := by
    rw [Entry.followingExprs, Entry.followingExprs]
    exact .cons connector here.alike later.following
  formed formed := by
    rw [Entry.AllWellFormed] at formed ⊢
    exact ⟨here.formed formed.1, later.formed formed.2⟩
  names := by
    rw [Entry.names, Entry.names, here.names, later.names]

theorem Value.keeps_subquery {entries others : List Entry} (keeps : Entry.Keeps db entries others)
    {table : String} {projection : Option String} {orderings : List SortKey}
    {limit : Option UInt64}
    (settled : (Query.toSelect table ⟨entries, projection, orderings, limit⟩).Settled db) :
    Value.Keeps db (.subquery table ⟨entries, projection, orderings, limit⟩)
      (.subquery table ⟨others, projection, orderings, limit⟩) where
  alike column comparison := by
    rw [Value.toExpr, Value.toExpr]
    refine Expr.alike_inSelect ?_ settled column
    rw [Query.toSelect, Query.toSelect]
    exact Select.alike_of_condition keeps.alike _ _ _ _
  formed op formed := by
    rw [Value.WellFormed, Query.WellFormed] at formed ⊢
    exact ⟨formed.1, formed.2.1, keeps.formed formed.2.2⟩
  names := by
    rw [Value.names, Value.names, Query.names, Query.names, keeps.names]

mutual
theorem Value.Exchanged.keeps {value other : Value} :
    value.Exchanged db other → value.Keeps db other
  | .same _ => ⟨fun _ _ => .refl _, fun _ formed => formed, rfl⟩
  | .subquery _ (.entries _ _ _ inner) settled => Value.keeps_subquery inner.keeps settled

theorem Node.Exchanged.keeps {node other : Node} : node.Exchanged db other → node.Keeps db other
  | .condition column op inner => Node.keeps_condition inner.keeps column op
  | .counterpart column counterpart s => Node.keeps_counterpart counterpart column s
  | .group inner => Node.keeps_group inner.keeps fun filled => by
      cases inner with
      | nil => exact absurd rfl filled
      | cons => simp

theorem Entry.Exchanged.keeps {entries others : List Entry} :
    Entry.Exchanged db entries others → Entry.Keeps db entries others
  | .nil => ⟨.none, .nil, fun formed => formed, rfl⟩
  | .cons connector here later => Entry.keeps_cons here.keeps later.keeps connector
end

namespace Query

variable {q r : Query}

theorem Exchanged.entries_keep (exchanged : q.Exchanged db r) :
    Entry.Keeps db q.entries r.entries := by
  cases exchanged with
  | entries _ _ _ inner => exact inner.keeps

theorem Exchanged.settings (exchanged : q.Exchanged db r) :
    q.orderings = r.orderings ∧ q.limit = r.limit := by
  cases exchanged
  exact ⟨rfl, rfl⟩

theorem Exchanged.wellFormed (exchanged : q.Exchanged db r) (formed : q.WellFormed) :
    r.WellFormed := by
  rw [wellFormed_iff] at formed ⊢
  exact exchanged.entries_keep.formed formed

theorem Exchanged.plainNames (exchanged : q.Exchanged db r) {table : String}
    {columns : List String} (plain : q.PlainNames table columns) : r.PlainNames table columns where
  table := plain.table
  columns := plain.columns
  conditions := exchanged.entries_keep.names ▸ plain.conditions
  orderings := exchanged.settings.1 ▸ plain.orderings

section

variable {table : String} {columns : List String}

theorem Exchanged.alike (exchanged : q.Exchanged db r) (table : String) (columns : List String)
    (limit : Option UInt64) :
    (q.selection table columns limit).Alike db (r.selection table columns limit) :=
  alike_selection exchanged.entries_keep.alike exchanged.settings.1 table columns limit

theorem Exchanged.store (exchanged : q.Exchanged db r) (limit : Option UInt64)
    (formed : q.WellFormed) (plain : q.PlainNames table columns) :
    (∃ error, db.store (q.request table columns limit) = .error error ∧
      db.store (r.request table columns limit) = .error error) ∨
      ∃ shown : List Datum → Row,
        db.store (q.request table columns limit) =
            .ok (((q.selection table columns limit).rows db []).map shown) ∧
          db.store (r.request table columns limit) =
            .ok (((r.selection table columns limit).rows db []).map shown) :=
  store_of_alike (exchanged.alike table columns limit) formed (exchanged.wellFormed formed) plain
    (exchanged.plainNames plain)

theorem Exchanged.result_run (exchanged : q.Exchanged db r) (limit : Option UInt64)
    (formed : q.WellFormed) (plain : q.PlainNames table columns) (decided : q.Decided db table) :
    (q.run db.store table columns limit).result = (r.run db.store table columns limit).result := by
  apply result_run_of_store
  rcases exchanged.store limit formed plain with
    ⟨error, failed, failed'⟩ | ⟨shown, answered, answered'⟩
  · rw [failed, failed']
  · have same := (exchanged.alike table columns limit).rows_eq
      (show (q.selection table columns limit).Decided db [] from decided)
    rw [answered, answered', same]

end

variable {α : Type} {entity : Entity α}

/-- Notes below a level, or in a list that is ranked high. -/
private def notes (level rank : Op) : Query :=
  ((Query.empty.push .and ⟨"level", level, .scalar (.int 3)⟩).push .or
    ⟨"list_id", .plain .member, .subquery "lists"
      ((Query.empty.select "_id").push .and ⟨"rank", rank, .scalar (.int 2)⟩)⟩).orderAsc "_id"

private def listTable : Table where
  name := "lists"
  columns := [{ name := "_id", affinity := .integer }, { name := "rank", affinity := .real }]
  rows := [[.integer 1, .integer 2]]

/-- The level of the second note is a null. -/
private def noteTable : Table where
  name := "notes"
  columns :=
    [{ name := "_id", affinity := .integer }, { name := "list_id", affinity := .integer },
      { name := "level", affinity := .integer, unique := true }]
  rows := [[.integer 1, .integer 1, .integer 2], [.integer 2, .integer 7, .null],
    [.integer 3, .integer 1, .integer 1]]

private def notebook : Database where
  tables := [listTable, noteTable]

end Query

end Criteria
