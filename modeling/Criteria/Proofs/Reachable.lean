import Criteria.Condition

namespace Criteria

mutual
inductive Value.Reachable : Value → Prop
  | scalar (scalar : Scalar) : Value.Reachable (.scalar scalar)
  | list (items : List Scalar) : Value.Reachable (.list items)
  | subquery (table : String) {query : Query} (reachable : Query.Reachable query) :
      Value.Reachable (.subquery table query)

inductive Query.Reachable : Query → Prop
  | empty : Query.Reachable .empty
  | push {q : Query} {column : String} {op : Op} {value : Value} {condition : Condition}
      (connector : Connector) (reachable : Query.Reachable q) (taken : Value.Reachable value)
      (made : Condition.make column op value = .ok condition) :
      Query.Reachable (q.push connector condition)
  | pushGroup {q group : Query} (connector : Connector) (reachable : Query.Reachable q)
      (inner : Query.Reachable group) : Query.Reachable (q.pushGroup connector group)
  | select {q : Query} (column : String) (reachable : Query.Reachable q) :
      Query.Reachable (q.select column)
  | orderBy {q : Query} (column : String) (direction : Direction)
      (reachable : Query.Reachable q) : Query.Reachable (q.orderBy column direction)
  | withLimit {q : Query} (n : UInt64) (reachable : Query.Reachable q) :
      Query.Reachable (q.withLimit n)
end

theorem Query.made_of_add {q r : Query} {connector : Connector} {column : String} {op : Op}
    {value : Value} (added : q.add connector column op value = .ok r) :
    ∃ condition, Condition.make column op value = .ok condition ∧
      q.push connector condition = r := by
  unfold Query.add at added
  cases made : Condition.make column op value with
  | error fault => simp [made, Except.map] at added
  | ok condition => exact ⟨condition, rfl, by simpa [made, Except.map] using added⟩

namespace Query.Reachable

theorem add {q r : Query} {connector : Connector} {column : String} {op : Op} {value : Value}
    (reachable : q.Reachable) (taken : value.Reachable)
    (added : q.add connector column op value = .ok r) : r.Reachable := by
  obtain ⟨condition, made, rfl⟩ := Query.made_of_add added
  exact reachable.push connector taken made

theorem and {q r : Query} {column : String} {op : Op} {value : Value}
    (reachable : q.Reachable) (taken : value.Reachable)
    (added : q.and column op value = .ok r) : r.Reachable :=
  reachable.add taken added

theorem or {q r : Query} {column : String} {op : Op} {value : Value}
    (reachable : q.Reachable) (taken : value.Reachable)
    (added : q.or column op value = .ok r) : r.Reachable :=
  reachable.add taken added

theorem andGroup {q group : Query} (reachable : q.Reachable) (inner : group.Reachable) :
    (q.andGroup group).Reachable :=
  reachable.pushGroup .and inner

theorem orGroup {q group : Query} (reachable : q.Reachable) (inner : group.Reachable) :
    (q.orGroup group).Reachable :=
  reachable.pushGroup .or inner

theorem andEq {q r : Query} {column : String} {value : Value} (reachable : q.Reachable)
    (taken : value.Reachable) (added : q.andEq column value = .ok r) : r.Reachable :=
  reachable.and taken added

theorem orEq {q r : Query} {column : String} {value : Value} (reachable : q.Reachable)
    (taken : value.Reachable) (added : q.orEq column value = .ok r) : r.Reachable :=
  reachable.or taken added

theorem andLike {q r : Query} {column pattern : String} (reachable : q.Reachable)
    (added : q.andLike column pattern = .ok r) : r.Reachable :=
  reachable.and (.scalar _) added

theorem andIn {q r : Query} {column : String} {items : List Scalar} (reachable : q.Reachable)
    (added : q.andIn column items = .ok r) : r.Reachable :=
  reachable.and (.list items) added

theorem orIn {q r : Query} {column : String} {items : List Scalar} (reachable : q.Reachable)
    (added : q.orIn column items = .ok r) : r.Reachable :=
  reachable.or (.list items) added

theorem orderAsc {q : Query} (column : String) (reachable : q.Reachable) :
    (q.orderAsc column).Reachable :=
  reachable.orderBy column .ascending

theorem orderDesc {q : Query} (column : String) (reachable : q.Reachable) :
    (q.orderDesc column).Reachable :=
  reachable.orderBy column .descending

end Query.Reachable

mutual
/-- Membership takes a list or a subquery with a projection, any other operator one value, and no
number is infinite or undefined. -/
def Value.WellFormed (op : Op) : Value → Prop
  | .scalar s => op.isMembership = false ∧ s.isFinite
  | .list items => op.isMembership = true ∧ items.all Scalar.isFinite
  | .subquery _ query => op.isMembership = true ∧ query.projection.isSome ∧ query.WellFormed

def Condition.WellFormed : Condition → Prop
  | ⟨column, op, value⟩ => Text.isBlank column = false ∧ value.WellFormed op

def Node.WellFormed : Node → Prop
  | .condition condition => condition.WellFormed
  | .group entries => entries ≠ [] ∧ Entry.AllWellFormed entries

def Entry.AllWellFormed : List Entry → Prop
  | [] => True
  | ⟨_, node⟩ :: rest => node.WellFormed ∧ Entry.AllWellFormed rest

def Query.WellFormed : Query → Prop
  | ⟨entries, _, _, _⟩ => Entry.AllWellFormed entries
end

theorem Query.wellFormed_iff (q : Query) : q.WellFormed ↔ Entry.AllWellFormed q.entries := by
  cases q
  simp only [Query.WellFormed]

theorem Entry.allWellFormed_iff (entries : List Entry) :
    Entry.AllWellFormed entries ↔ ∀ entry ∈ entries, entry.node.WellFormed := by
  induction entries with
  | nil => simp [Entry.AllWellFormed]
  | cons entry rest induction =>
      obtain ⟨connector, node⟩ := entry
      simp [Entry.AllWellFormed, induction]

theorem Entry.allWellFormed_append (first second : List Entry) :
    Entry.AllWellFormed (first ++ second) ↔
      Entry.AllWellFormed first ∧ Entry.AllWellFormed second := by
  simp only [Entry.allWellFormed_iff, List.forall_mem_append]

theorem Condition.eq_of_make {column : String} {op : Op} {value : Value} {condition : Condition}
    (made : Condition.make column op value = .ok condition) : condition = ⟨column, op, value⟩ := by
  unfold Condition.make at made
  split at made
  · cases made
  · split at made
    · cases made
    · split at made
      · exact (Except.ok.inj made).symm
      · cases made

def Value.InnerWellFormed : Value → Prop
  | .subquery _ query => query.WellFormed
  | _ => True

theorem Condition.wellFormed_of_make {column : String} {op : Op} {value : Value}
    {condition : Condition} (made : Condition.make column op value = .ok condition)
    (inner : value.InnerWellFormed) : condition.WellFormed := by
  unfold Condition.make at made
  split at made
  · cases made
  · rename_i shown
    split at made
    · cases made
    · rename_i fits
      split at made
      · rename_i finite
        cases made
        refine ⟨by simpa using shown, ?_⟩
        cases value with
        | scalar s =>
            cases member : op.isMembership with
            | true => simp [Value.shapeFault?, member] at fits
            | false => exact ⟨member, finite⟩
        | list items =>
            cases member : op.isMembership with
            | true => exact ⟨member, finite⟩
            | false => simp [Value.shapeFault?, member] at fits
        | subquery table query =>
            cases member : op.isMembership with
            | true =>
                refine ⟨member, ?_, inner⟩
                cases projected : query.projection with
                | none => simp [Value.shapeFault?, member, projected] at fits
                | some column => rfl
            | false => simp [Value.shapeFault?, member] at fits
      · cases made

mutual
theorem Value.Reachable.innerWellFormed :
    ∀ {value : Value}, value.Reachable → value.InnerWellFormed
  | _, .scalar _ => trivial
  | _, .list _ => trivial
  | _, .subquery _ reachable => reachable.wellFormed

theorem Query.Reachable.wellFormed : ∀ {q : Query}, q.Reachable → q.WellFormed
  | _, .empty => by simp [Query.wellFormed_iff, Query.empty, Entry.AllWellFormed]
  | _, .push connector reachable taken made => by
      have before := (Query.wellFormed_iff _).mp reachable.wellFormed
      have added := Condition.wellFormed_of_make made taken.innerWellFormed
      simp [Query.wellFormed_iff, Query.push, Entry.allWellFormed_append, before,
        Entry.AllWellFormed, Node.WellFormed, added]
  | _, @Query.Reachable.pushGroup q group connector reachable inner => by
      have before := (Query.wellFormed_iff q).mp reachable.wellFormed
      have within := (Query.wellFormed_iff group).mp inner.wellFormed
      unfold Query.pushGroup
      split
      · exact reachable.wellFormed
      · rename_i filled
        have filled : group.entries ≠ [] := by simpa [Query.isEmpty] using filled
        simp [Query.wellFormed_iff, Entry.allWellFormed_append, before, Entry.AllWellFormed,
          Node.WellFormed, within, filled]
  | _, .select column reachable => by
      simpa [Query.wellFormed_iff, Query.select] using reachable.wellFormed
  | _, .orderBy column direction reachable => by
      simpa [Query.wellFormed_iff, Query.orderBy] using reachable.wellFormed
  | _, .withLimit n reachable => by
      simpa [Query.wellFormed_iff, Query.withLimit] using reachable.wellFormed
end

theorem Condition.make_of_wellFormed {column : String} {op : Op} {value : Value}
    (formed : (Condition.mk column op value).WellFormed) :
    Condition.make column op value = .ok ⟨column, op, value⟩ := by
  rw [Condition.WellFormed] at formed
  obtain ⟨shown, formed⟩ := formed
  cases value with
  | scalar s =>
      rw [Value.WellFormed] at formed
      simp [Condition.make, shown, Value.shapeFault?, formed.1, Value.isFinite, formed.2]
  | list items =>
      rw [Value.WellFormed] at formed
      simp only [Condition.make, shown, Value.shapeFault?, formed.1, Value.isFinite, formed.2]
      rfl
  | subquery table query =>
      rw [Value.WellFormed] at formed
      simp [Condition.make, shown, Value.shapeFault?, formed.1, formed.2.1, Value.isFinite]

namespace Query.Reachable

theorem orderings {q : Query} (reachable : q.Reachable) (keys : List SortKey) :
    Query.Reachable { q with orderings := q.orderings ++ keys } := by
  induction keys generalizing q with
  | nil =>
      cases q
      simpa using reachable
  | cons key rest induction =>
      simpa [Query.orderBy] using induction (reachable.orderBy key.column key.direction)

theorem settings {entries : List Entry} (reachable : Query.Reachable ⟨entries, none, [], none⟩)
    (projection : Option String) (orderings : List SortKey) (limit : Option UInt64) :
    Query.Reachable ⟨entries, projection, orderings, limit⟩ := by
  have ordered := reachable.orderings orderings
  have projected : Query.Reachable ⟨entries, projection, orderings, none⟩ := by
    cases projection with
    | none => exact ordered
    | some column => exact ordered.select column
  cases limit with
  | none => exact projected
  | some n => exact projected.withLimit n

end Query.Reachable

mutual
theorem Value.WellFormed.reachable {op : Op} :
    ∀ {value : Value}, value.WellFormed op → value.Reachable
  | .scalar s, _ => .scalar s
  | .list items, _ => .list items
  | .subquery table query, formed => by
      rw [Value.WellFormed] at formed
      exact .subquery table (Query.WellFormed.reachable formed.2.2)

theorem Query.WellFormed.reachable : ∀ {q : Query}, q.WellFormed → q.Reachable
  | ⟨entries, projection, orderings, limit⟩, formed => by
      rw [Query.WellFormed] at formed
      have built := Entry.AllWellFormed.reachable formed .empty
      exact Query.Reachable.settings built projection orderings limit

theorem Node.WellFormed.reachable :
    ∀ {node : Node}, node.WellFormed → ∀ {q : Query} (connector : Connector), q.Reachable →
      Query.Reachable { q with entries := q.entries ++ [⟨connector, node⟩] }
  | .condition ⟨column, op, value⟩, formed, q, connector, reachable => by
      rw [Node.WellFormed] at formed
      have made := Condition.make_of_wellFormed formed
      rw [Condition.WellFormed] at formed
      exact reachable.push connector (Value.WellFormed.reachable formed.2) made
  | .group entries, formed, q, connector, reachable => by
      rw [Node.WellFormed] at formed
      -- A group brings its entries alone, so the query it is taken from needs no settings.
      have inner := Entry.AllWellFormed.reachable formed.2 .empty
      have filled : entries.isEmpty = false := by simpa using formed.1
      simpa [Query.pushGroup, Query.isEmpty, Query.empty, filled] using
        reachable.pushGroup connector inner

theorem Entry.AllWellFormed.reachable :
    ∀ {entries : List Entry}, Entry.AllWellFormed entries → ∀ {q : Query}, q.Reachable →
      Query.Reachable { q with entries := q.entries ++ entries }
  | [], _, q, reachable => by
      cases q
      simpa using reachable
  | ⟨connector, node⟩ :: rest, formed, q, reachable => by
      rw [Entry.AllWellFormed] at formed
      have first := Node.WellFormed.reachable formed.1 connector reachable
      simpa using Entry.AllWellFormed.reachable formed.2 first
end

/-- The queries that callers can build are those without faults. -/
theorem Query.reachable_iff_wellFormed (q : Query) : q.Reachable ↔ q.WellFormed :=
  ⟨Query.Reachable.wellFormed, Query.WellFormed.reachable⟩

/-- A condition that passed its checks, with a subquery that callers can build if it has one. -/
def Condition.Reachable (condition : Condition) : Prop :=
  ∃ column op value, value.Reachable ∧ Condition.make column op value = .ok condition

theorem Condition.reachable_iff_wellFormed (condition : Condition) :
    condition.Reachable ↔ condition.WellFormed := by
  constructor
  · rintro ⟨column, op, value, taken, made⟩
    exact Condition.wellFormed_of_make made taken.innerWellFormed
  · intro formed
    obtain ⟨column, op, value⟩ := condition
    have made := Condition.make_of_wellFormed formed
    rw [Condition.WellFormed] at formed
    exact ⟨column, op, value, Value.WellFormed.reachable formed.2, made⟩

end Criteria
