import Criteria.Proofs.Binary64.Equality
import Criteria.Proofs.Form
import Criteria.Proofs.Formation

namespace Criteria

namespace Scalar

def isNaN : Scalar → Bool
  | float x => x.isNaN
  | _ => false

def unsigned : Scalar → Scalar
  | float x => float x.unsigned
  | s => s

inductive OppositeZeros : Scalar → Scalar → Prop
  | float {x y : Binary64} (zeros : x.OppositeZeros y) : OppositeZeros (.float x) (.float y)

variable {s t : Scalar}

theorem isNaN_eq_false_of_isFinite (finite : s.isFinite = true) : s.isNaN = false := by
  cases s with
  | float x =>
      simp only [isFinite, isNaN, Binary64.isFinite, Binary64.isNaN, decide_eq_true_eq,
        decide_eq_false_iff_not] at finite ⊢
      omega
  | _ => rfl

theorem same_iff : s.same t = true ↔ s.isNaN = false ∧ s.unsigned = t.unsigned := by
  cases s <;> cases t <;> simp [same, isNaN, unsigned, Binary64.same_iff]

theorem unsigned_eq_iff : s.unsigned = t.unsigned ↔ s = t ∨ s.OppositeZeros t := by
  constructor
  · intro equal
    cases s <;> cases t <;> simp only [unsigned, reduceCtorEq] at equal
    case float.float x y =>
      rcases Binary64.unsigned_eq_iff.mp (float.inj equal) with rfl | zeros
      · exact .inl rfl
      · exact .inr (.float zeros)
    all_goals exact .inl equal
  · rintro (rfl | opposite)
    · rfl
    · cases opposite with
      | float zeros => rw [unsigned, unsigned, Binary64.unsigned_eq_iff.mpr (.inr zeros)]

theorem OppositeZeros.canonical (zeros : s.OppositeZeros t) :
    s.canonical = "0.0" ∧ t.canonical = "-0.0" ∨ s.canonical = "-0.0" ∧ t.canonical = "0.0" := by
  cases zeros with
  | @float x y zeros =>
      have signs := zeros.signs
      rw [Scalar.canonical, Scalar.canonical, Binary64.text_of_isZero zeros.left,
        Binary64.text_of_isZero zeros.right]
      cases left : x.negative <;> cases right : y.negative <;> simp [left, right] at signs ⊢

theorem sameList_iff {ss ts : List Scalar} :
    sameList ss ts = true ↔
      (∀ s ∈ ss, s.isNaN = false) ∧ ss.map unsigned = ts.map unsigned := by
  induction ss generalizing ts with
  | nil => cases ts <;> simp [sameList]
  | cons s rest induction =>
      cases ts with
      | nil => simp [sameList]
      | cons t others =>
          simp only [sameList, Bool.and_eq_true, same_iff, induction, List.forall_mem_cons,
            List.map_cons, List.cons.injEq]
          tauto

end Scalar

mutual
theorem Value.same_iff : ∀ v w : Value,
    v.same w = true ↔
      (∀ s ∈ v.scalars, s.isNaN = false) ∧ v.mapScalars .unsigned = w.mapScalars .unsigned
  | .scalar s, .scalar t => by simp [Value.same, Value.scalars, Value.mapScalars, Scalar.same_iff]
  | .list ss, .list ts => by
      simp [Value.same, Value.scalars, Value.mapScalars, Scalar.sameList_iff]
  | .subquery a ⟨es, p, os, l⟩, .subquery b ⟨fs, r, ps, m⟩ => by
      have inner := Entry.sameList_iff es fs
      simp only [Value.same, Query.same, Value.scalars, Query.scalars, Value.mapScalars,
        Query.mapScalars, Bool.and_eq_true, beq_iff_eq, inner, Value.subquery.injEq,
        Query.mk.injEq]
      tauto
  | .scalar _, .list _ | .scalar _, .subquery _ _ | .list _, .scalar _ | .list _, .subquery _ _
  | .subquery _ _, .scalar _ | .subquery _ _, .list _ => by simp [Value.same, Value.mapScalars]

theorem Node.same_iff : ∀ n m : Node,
    n.same m = true ↔
      (∀ s ∈ n.scalars, s.isNaN = false) ∧ n.mapScalars .unsigned = m.mapScalars .unsigned
  | .condition ⟨c, o, v⟩, .condition ⟨d, p, w⟩ => by
      have valued := Value.same_iff v w
      simp only [Node.same, Condition.same, Node.scalars, Condition.scalars, Node.mapScalars,
        Condition.mapScalars, Bool.and_eq_true, beq_iff_eq, valued, Node.condition.injEq,
        Condition.mk.injEq]
      tauto
  | .group es, .group fs => by
      simp [Node.same, Node.scalars, Node.mapScalars, Entry.sameList_iff es fs]
  | .condition _, .group _ | .group _, .condition _ => by simp [Node.same, Node.mapScalars]

theorem Entry.sameList_iff : ∀ es fs : List Entry,
    Entry.sameList es fs = true ↔
      (∀ s ∈ Entry.scalars es, s.isNaN = false) ∧
        Entry.mapScalars .unsigned es = Entry.mapScalars .unsigned fs
  | [], [] => by simp [Entry.sameList, Entry.scalars]
  | ⟨c, n⟩ :: es, ⟨d, m⟩ :: fs => by
      have first := Node.same_iff n m
      have later := Entry.sameList_iff es fs
      simp only [Entry.sameList, Entry.same, Entry.scalars, Entry.mapScalars, Bool.and_eq_true,
        beq_iff_eq, first, later, List.forall_mem_append, List.cons.injEq, Entry.mk.injEq]
      tauto
  | [], ⟨_, _⟩ :: _ | ⟨_, _⟩ :: _, [] => by simp [Entry.sameList, Entry.mapScalars]
end

namespace Query

theorem same_iff (q r : Query) :
    q.same r = true ↔
      (∀ s ∈ Entry.scalars q.entries, s.isNaN = false) ∧
        q.mapScalars .unsigned = r.mapScalars .unsigned := by
  obtain ⟨entries, projection, orderings, limit⟩ := q
  obtain ⟨others, column, keys, n⟩ := r
  simp only [same, mapScalars, Bool.and_eq_true, beq_iff_eq, Entry.sameList_iff, mk.injEq]
  tauto

theorem Reachable.isNaN_eq_false {q : Query} (reachable : q.Reachable) :
    ∀ s ∈ Entry.scalars q.entries, s.isNaN = false := fun s member =>
  Scalar.isNaN_eq_false_of_isFinite
    (Entry.AllWellFormed.finite ((wellFormed_iff q).mp reachable.wellFormed) s member)

theorem Reachable.same_iff {q : Query} (reachable : q.Reachable) (r : Query) :
    q.same r = true ↔ q.mapScalars .unsigned = r.mapScalars .unsigned := by
  rw [Query.same_iff, and_iff_right reachable.isNaN_eq_false]

theorem equivalence_same :
    Equivalence fun q r : { q : Query // q.Reachable } => q.val.same r.val = true where
  refl q := (q.property.same_iff q).mpr rfl
  symm {q r} same := (r.property.same_iff q).mpr ((q.property.same_iff r).mp same).symm
  trans {p q r} first second :=
    (p.property.same_iff r).mpr
      (((p.property.same_iff q).mp first).trans ((q.property.same_iff r).mp second))

section

variable {q r : Query}

theorem selection_of_same (same : q.same r = true) :
    q.compile.selection = r.compile.selection := by
  have equal := congrArg Query.entries ((same_iff q r).mp same).2
  rw [entries_mapScalars, entries_mapScalars] at equal
  rw [compile, compile, ← Entry.selection_mapScalars .unsigned, equal,
    Entry.selection_mapScalars]

theorem orderText?_of_same (same : q.same r = true) : q.orderText? = r.orderText? := by
  have equal := congrArg Query.orderings ((same_iff q r).mp same).2
  rw [orderings_mapScalars, orderings_mapScalars] at equal
  rw [orderText?, orderText?, equal]

theorem scalars_of_same (same : q.same r = true) :
    (Entry.scalars q.entries).map Scalar.unsigned =
      (Entry.scalars r.entries).map Scalar.unsigned := by
  have equal := congrArg Query.entries ((same_iff q r).mp same).2
  rw [entries_mapScalars, entries_mapScalars] at equal
  rw [← Entry.scalars_mapScalars, equal, Entry.scalars_mapScalars]

theorem getElem?_arguments (q : Query) (i : Nat) :
    q.compile.arguments[i]? = ((Entry.scalars q.entries)[i]?).map Scalar.canonical := by
  rw [compile, Entry.arguments_joinedClause, List.getElem?_map]

/-- The values in the same place of both are zeros of opposite sign. -/
def OppositeZerosAt (q r : Query) (i : Nat) : Prop :=
  ∃ s t : Scalar, (Entry.scalars q.entries)[i]? = some s ∧
    (Entry.scalars r.entries)[i]? = some t ∧ s.OppositeZeros t

theorem OppositeZerosAt.arguments {i : Nat} (zeros : q.OppositeZerosAt r i) :
    q.compile.arguments[i]? = some "0.0" ∧ r.compile.arguments[i]? = some "-0.0" ∨
      q.compile.arguments[i]? = some "-0.0" ∧ r.compile.arguments[i]? = some "0.0" := by
  obtain ⟨s, t, here, there, zeros⟩ := zeros
  simpa [getElem?_arguments, here, there] using zeros.canonical

theorem arguments_ne_iff_of_same (same : q.same r = true) (i : Nat) :
    q.compile.arguments[i]? ≠ r.compile.arguments[i]? ↔ q.OppositeZerosAt r i := by
  constructor
  · intro differ
    have equal := congrArg (·[i]?) (scalars_of_same same)
    simp only [List.getElem?_map] at equal
    rw [getElem?_arguments, getElem?_arguments] at differ
    -- Up to signs the values are the same, so there is one in this place of both or of neither.
    cases here : (Entry.scalars q.entries)[i]? with
    | none => cases there : (Entry.scalars r.entries)[i]? <;> simp [here, there] at equal differ
    | some s =>
        cases there : (Entry.scalars r.entries)[i]? with
        | none => simp [here, there] at equal
        | some t =>
            simp only [here, there, Option.map_some, ne_eq, Option.some.injEq] at equal differ
            rcases Scalar.unsigned_eq_iff.mp equal with rfl | zeros
            · exact absurd rfl differ
            · exact ⟨s, t, here, there, zeros⟩
  · intro zeros
    rcases zeros.arguments with ⟨left, right⟩ | ⟨left, right⟩ <;> simp [left, right]

theorem length_arguments_of_same (same : q.same r = true) :
    q.compile.arguments.length = r.compile.arguments.length := by
  have lengths := congrArg List.length (scalars_of_same same)
  simpa [compile, Entry.arguments_joinedClause] using lengths

end

/-- On queries that callers can build equality is an equivalence, for every number in them is one.
Equal ones ask with one text in one order and with as many arguments, and two arguments in the same
place differ exactly where they stand for zeros of opposite sign. -/
theorem same_asks_alike :
    (Equivalence fun q r : { q : Query // q.Reachable } => q.val.same r.val = true) ∧
      (∀ q : Query, q.Reachable → ∀ s ∈ Entry.scalars q.entries, s.isNaN = false) ∧
      ∀ q r : Query, q.Reachable → r.Reachable → q.same r = true →
        q.compile.selection = r.compile.selection ∧
          SortKey.orderText? q.orderings = SortKey.orderText? r.orderings ∧
          q.compile.arguments.length = r.compile.arguments.length ∧
          (∀ i, q.compile.arguments[i]? ≠ r.compile.arguments[i]? ↔ q.OppositeZerosAt r i) ∧
          ∀ i, q.OppositeZerosAt r i →
            q.compile.arguments[i]? = some "0.0" ∧ r.compile.arguments[i]? = some "-0.0" ∨
              q.compile.arguments[i]? = some "-0.0" ∧ r.compile.arguments[i]? = some "0.0" := by
  refine ⟨equivalence_same, fun q reachable => reachable.isNaN_eq_false, ?_⟩
  intro q r _ _ same
  exact ⟨selection_of_same same, orderText?_of_same same, length_arguments_of_same same,
    arguments_ne_iff_of_same same, fun i zeros => zeros.arguments⟩

private def weighing (weight : Binary64) : Condition :=
  ⟨"weight", .plain .eq, .scalar (.float weight)⟩

/-- A number in a subquery in a group, behind a list. -/
private def weighed (weight : Binary64) : Query :=
  ((Query.empty.push .or ⟨"_id", .plain .member, .list [.int 7, .text "0"]⟩).pushGroup .and
    (Query.empty.push .and ⟨"list_id", ⟨.member, true⟩,
      .subquery "lists" ((Query.empty.select "_id").push .and (weighing weight))⟩)).orderDesc "_id"

private theorem weighed_reachable {weight : Binary64}
    (made : Condition.make "weight" (.plain .eq) (.scalar (.float weight)) =
      .ok (weighing weight)) : (weighed weight).Reachable := by
  have lists : ((Query.empty.select "_id").push .and (weighing weight)).Reachable :=
    .push .and (.select "_id" .empty) (.scalar _) made
  have listed := @Reachable.push _ "list_id" ⟨.member, true⟩ (.subquery "lists" _) _ .and .empty
    (.subquery "lists" lists) rfl
  have numbered := @Reachable.push _ "_id" (.plain .member) (.list [.int 7, .text "0"]) _ .or .empty
    (.list _) rfl
  exact (numbered.pushGroup .and listed).orderDesc "_id"

theorem same_asks_alike_zeros :
    (weighed ⟨0⟩).Reachable ∧ (weighed ⟨0x8000000000000000⟩).Reachable ∧
      (weighed ⟨0⟩).same (weighed ⟨0x8000000000000000⟩) = true ∧
      (weighed ⟨0x8000000000000000⟩).same (weighed ⟨0⟩) = true ∧
      (weighed ⟨0⟩).compile.selection = (weighed ⟨0x8000000000000000⟩).compile.selection ∧
      (weighed ⟨0⟩).compile.arguments[2]? ≠ (weighed ⟨0x8000000000000000⟩).compile.arguments[2]? ∧
      (weighed ⟨0⟩).compile.arguments = ["7", "0", "0.0"] ∧
      (weighed ⟨0x8000000000000000⟩).compile.arguments = ["7", "0", "-0.0"] := by
  have left : (weighed ⟨0⟩).Reachable := weighed_reachable rfl
  have right : (weighed ⟨0x8000000000000000⟩).Reachable := weighed_reachable rfl
  have same : (weighed ⟨0⟩).same (weighed ⟨0x8000000000000000⟩) = true :=
    (left.same_iff _).mpr rfl
  have zeros : (weighed ⟨0⟩).OppositeZerosAt (weighed ⟨0x8000000000000000⟩) 2 :=
    ⟨_, _, rfl, rfl, .float ⟨by decide, by decide, by decide⟩⟩
  obtain ⟨equivalence, _, alike⟩ := same_asks_alike
  obtain ⟨text, _, _, differ, _⟩ := alike _ _ left right same
  have back := @Equivalence.symm _ _ equivalence ⟨_, left⟩ ⟨_, right⟩ same
  exact ⟨left, right, same, back, text, (differ 2).mpr zeros, by decide +kernel, by decide +kernel⟩

end Query

end Criteria
