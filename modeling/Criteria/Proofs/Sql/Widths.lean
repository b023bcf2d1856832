import Criteria.Sql.Database

namespace Criteria.Sql

theorem Table.mem_place {row other : List Datum} {key : Int64} {rows : List (List Datum)}
    (member : other ∈ Table.place row key rows) : other = row ∨ other ∈ rows := by
  induction rows with
  | nil => simpa [place] using member
  | cons first rest induction =>
      have later (there : other ∈ first :: place row key rest) :
          other = row ∨ other ∈ first :: rest := by
        obtain rfl | there := List.mem_cons.mp there
        · exact .inr List.mem_cons_self
        · exact (induction there).imp_right (List.mem_cons_of_mem _)
      rw [place] at member
      split at member
      · split at member
        · exact List.mem_cons.mp member
        · exact later member
      · exact later member

namespace Database

/-- Every row is as wide as its table. -/
def Rectangular (db : Database) : Prop :=
  ∀ t ∈ db.tables, ∀ row ∈ t.rows, row.length = t.columns.length

theorem exists_of_bind {ε α β : Type} {x : Except ε α} {f : α → Except ε β} {b : β}
    (done : x >>= f = .ok b) : ∃ a, x = .ok a ∧ f a = .ok b := by
  cases x with
  | error e => cases done
  | ok a => exact ⟨a, rfl, done⟩

theorem of_guard {ε β : Type} {c : Prop} [Decidable c] {x : Except ε Unit}
    {f : Unit → Except ε β} {b : β} (done : (if c then x >>= f else f ()) = .ok b) :
    f () = .ok b ∧ (c → x = .ok ()) := by
  split at done
  case isTrue holds =>
    obtain ⟨_, passed, done⟩ := exists_of_bind done
    exact ⟨done, fun _ => passed⟩
  case isFalse fails => exact ⟨done, fun holds => absurd holds fails⟩

variable {db after : Database} {name : String}

theorem mem_of_require {t : Table} (required : db.require name = .ok t) : t ∈ db.tables := by
  rw [require] at required
  split at required
  case h_1 found =>
    cases required
    exact List.mem_of_find?_eq_some found
  case h_2 => cases required

namespace Rectangular

theorem empty (plan : Plan) : (Database.empty plan).Rectangular :=
  nofun

theorem replace (rectangular : db.Rectangular) {t : Table}
    (wide : ∀ row ∈ t.rows, row.length = t.columns.length) : (db.replace t).Rectangular := by
  intro u member
  obtain ⟨v, there, rfl⟩ := List.mem_map.mp member
  split
  · exact wide
  · exact rectangular v there

theorem add (rectangular : db.Rectangular) {t : Table}
    (wide : ∀ row ∈ t.rows, row.length = t.columns.length) (added : db.add t = .ok after) :
    after.Rectangular := by
  unfold Database.add at added
  obtain ⟨added, -⟩ := of_guard added
  obtain ⟨added, -⟩ := of_guard added
  obtain ⟨added, -⟩ := of_guard added
  obtain ⟨-, -, added⟩ := exists_of_bind added
  cases added
  exact List.forall_mem_append.mpr ⟨rectangular, List.forall_mem_singleton.mpr wide⟩

theorem create (rectangular : db.Rectangular) {t : Table}
    (wide : ∀ row ∈ t.rows, row.length = t.columns.length) (created : db.create t = .ok after) :
    after.Rectangular := by
  rw [Database.create] at created
  split at created
  · cases created
    exact rectangular
  · exact rectangular.add wide created

theorem insert (rectangular : db.Rectangular) {row : List Datum} {key : Int64}
    (inserted : db.insert name row = .ok (key, after)) : after.Rectangular := by
  unfold Database.insert at inserted
  obtain ⟨t, required, inserted⟩ := exists_of_bind inserted
  obtain ⟨-, -, inserted⟩ := exists_of_bind inserted
  obtain ⟨inserted, checked⟩ := of_guard inserted
  have wide := rectangular t (mem_of_require required)
  have width : row.length = t.columns.length :=
    Decidable.byContradiction fun other => nomatch checked other
  split at inserted
  case h_1 last _ =>
    obtain ⟨key, keyed, inserted⟩ := exists_of_bind inserted
    obtain ⟨-, -, inserted⟩ := exists_of_bind inserted
    cases inserted
    refine rectangular.replace fun other member => ?_
    obtain rfl | there := Table.mem_place member
    · cases row with
      | nil => cases keyed
      | cons => exact width
    · exact wide other there
  case h_2 =>
    obtain ⟨-, -, inserted⟩ := exists_of_bind inserted
    cases inserted
    exact rectangular.replace
      (List.forall_mem_append.mpr ⟨wide, List.forall_mem_singleton.mpr width⟩)

theorem update (rectangular : db.Rectangular) {key : Int64} {column : String} {value : Datum}
    (updated : db.update name key column value = .ok after) : after.Rectangular := by
  unfold Database.update at updated
  obtain ⟨t, required, updated⟩ := exists_of_bind updated
  obtain ⟨-, -, updated⟩ := exists_of_bind updated
  have wide := rectangular t (mem_of_require required)
  split at updated
  case h_1 =>
    cases updated
    refine rectangular.replace fun other member => ?_
    obtain ⟨row, there, rfl⟩ := List.mem_map.mp member
    split
    · rw [List.length_set]
      exact wide row there
    · exact wide row there
  case h_2 => cases updated

theorem delete (rectangular : db.Rectangular) {key : Int64}
    (deleted : db.delete name key = .ok after) : after.Rectangular := by
  unfold Database.delete at deleted
  obtain ⟨t, required, deleted⟩ := exists_of_bind deleted
  obtain ⟨-, -, deleted⟩ := exists_of_bind deleted
  obtain ⟨deleted, -⟩ := of_guard deleted
  obtain ⟨deleted, -⟩ := of_guard deleted
  cases deleted
  have wide := rectangular t (mem_of_require required)
  exact rectangular.replace fun row member => wide row (List.mem_filter.mp member).1

theorem drop (rectangular : db.Rectangular) (dropped : db.drop name = .ok after) :
    after.Rectangular := by
  unfold Database.drop at dropped
  obtain ⟨t, -, dropped⟩ := exists_of_bind dropped
  obtain ⟨-, -, dropped⟩ := exists_of_bind dropped
  obtain ⟨dropped, -⟩ := of_guard dropped
  cases dropped
  exact fun u member => rectangular u (List.mem_filter.mp member).1

end Rectangular

/-- What can come of the empty database by changes that go through. -/
inductive Made : Database → Prop
  | empty (plan : Plan) : Made (.empty plan)
  | create {db after : Database} {t : Table} (made : Made db) (fresh : t.rows = [])
      (created : db.create t = .ok after) : Made after
  | insert {db after : Database} {name : String} {row : List Datum} {key : Int64} (made : Made db)
      (inserted : db.insert name row = .ok (key, after)) : Made after
  | update {db after : Database} {name : String} {key : Int64} {column : String} {value : Datum}
      (made : Made db) (updated : db.update name key column value = .ok after) : Made after
  | delete {db after : Database} {name : String} {key : Int64} (made : Made db)
      (deleted : db.delete name key = .ok after) : Made after
  | drop {db after : Database} {name : String} (made : Made db)
      (dropped : db.drop name = .ok after) : Made after

theorem Made.rectangular (made : db.Made) : db.Rectangular := by
  induction made with
  | empty plan => exact .empty plan
  | create _ fresh created rectangular =>
    refine rectangular.create (fun row member => ?_) created
    rw [fresh] at member
    cases member
  | insert _ inserted rectangular => exact rectangular.insert inserted
  | update _ updated rectangular => exact rectangular.update updated
  | delete _ deleted rectangular => exact rectangular.delete deleted
  | drop _ dropped rectangular => exact rectangular.drop dropped

end Database

end Criteria.Sql
