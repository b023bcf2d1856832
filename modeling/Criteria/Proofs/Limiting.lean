import Criteria.Proofs.Formation
import Criteria.Proofs.Records

/-!
Limits. On a store that honours them the three calls agree: each answers from the rows that there
are without a limit. A database lets as many rows through as a limit says, up to the largest number
that it can read as one, and which ones these are is its own choice where the sort keys leave it.
-/

namespace Criteria

open Criteria.Sql

variable {α : Type}

/-- A limit keeps the first rows of the answer, and no choice of columns makes rows come or go. -/
structure Store.HonoursLimits (store : Store) : Prop where
  limited : ∀ (r : Request) (n : UInt64),
    store { r with limit := some n } = (store { r with limit := none }).map (List.take n.toNat)
  sized : ∀ (r : Request) (columns : List String),
    (store { r with columns }).map List.length = (store r).map List.length

theorem Store.honoursLimits_limited (rows : List Row) : (Store.limited rows).HonoursLimits where
  limited _ _ := rfl
  sized _ _ := rfl

/-- As many of the items as the limit lets through, whichever they are. -/
structure Picks (n : Nat) (items picked : List α) : Prop where
  length : picked.length = min n items.length
  among : picked.Subperm items

namespace Picks

variable {β : Type} {n : Nat} {items others picked : List α}

theorem take (n : Nat) (items : List α) : Picks n items (items.take n) :=
  ⟨List.length_take, (List.take_sublist n items).subperm⟩

theorem perm (picks : Picks n items picked) (perm : items.Perm others) : Picks n others picked :=
  ⟨perm.length_eq ▸ picks.length, picks.among.trans perm.subperm⟩

theorem map (picks : Picks n items picked) (f : α → β) :
    Picks n (items.map f) (picked.map f) := by
  obtain ⟨chosen, perm, sublist⟩ := picks.among
  refine ⟨by simpa using picks.length, chosen.map f, perm.map f, sublist.map f⟩

end Picks

theorem Picks.mapM {mapper : Row → Except MappingError α} {rows picked : List Row}
    {items : List α} {n : Nat} (picks : Picks n rows picked)
    (read : rows.mapM mapper = .ok items) :
    ∃ found, picked.mapM mapper = .ok found ∧ Picks n items found := by
  obtain ⟨chosen, perm, sublist⟩ := picks.among
  have mapped := sublist.map mapper
  rw [mapM_eq_ok_iff.mp read] at mapped
  obtain ⟨kept, among, same⟩ := List.sublist_map_iff.mp mapped
  obtain ⟨found, taken, permuted⟩ := mapM_perm (mapM_eq_ok_iff.mpr same) perm.symm
  have lengths : found.length = picked.length := by
    simpa using (congrArg List.length (mapM_eq_ok_iff.mp taken)).symm
  have all : items.length = rows.length := by
    simpa using (congrArg List.length (mapM_eq_ok_iff.mp read)).symm
  exact ⟨found, taken, by rw [lengths, all, picks.length], kept, permuted.symm, among⟩

theorem mapM_take {mapper : Row → Except MappingError α} {rows : List Row} {items : List α}
    (read : rows.mapM mapper = .ok items) (n : Nat) :
    (rows.take n).mapM mapper = .ok (items.take n) := by
  rw [mapM_eq_ok_iff] at read ⊢
  rw [List.map_take, read, List.map_take]

namespace Query

variable {q : Query} {store : Store} {entity : Entity α} {table : String} {columns : List String}
  {items : List α}

theorem rows_of_getList (all : (q.getList store entity).result = .ok items) :
    ∃ rows, store (q.request entity.table entity.columns q.limit) = .ok rows ∧
      rows.mapM entity.mapper = .ok items := by
  cases answer : store (q.request entity.table entity.columns q.limit) with
  | error error => simp [((q.asks_getList store entity).failed error answer).1] at all
  | ok rows =>
      rw [q.result_getList_of_answer answer, mapError_eq_ok_iff] at all
      exact ⟨rows, rfl, all⟩

/-- What is read of all rows is read of the first of them. -/
theorem result_getList_take {rows : List Row} {n : UInt64}
    (answer : store (q.request entity.table entity.columns (some n)) = .ok (rows.take n.toNat))
    (read : rows.mapM entity.mapper = .ok items) :
    ((q.withLimit n).getList store entity).result = .ok (items.take n.toNat) := by
  have read := mapM_take read n.toNat
  rw [(q.withLimit n).result_getList_of_answer answer, read]
  rfl

theorem answer_withLimit (honours : store.HonoursLimits) (q : Query) (n : UInt64) :
    store (q.request table columns (some n)) =
      (store (q.request table columns none)).map (List.take n.toNat) :=
  honours.limited (q.request table columns none) n

theorem length_answer (honours : store.HonoursLimits) (q : Query) (others : List String)
    (limit : Option UInt64) :
    (store (q.request table others limit)).map List.length =
      (store (q.request table columns limit)).map List.length :=
  honours.sized (q.request table columns limit) others

/-- Of one row at most, all is read when the first is. -/
theorem reading_head {e : Execution (List Row)} (mapper : Row → Except MappingError α)
    (few : ∀ rows, e.result = .ok rows → rows.length ≤ 1) :
    (e.reading fun rows =>
      match rows with
      | [] => .ok none
      | row :: _ => (mapper row).map some) = (e.reading (·.mapM mapper)).map List.head? := by
  obtain ⟨requests, events, result⟩ := e
  match result, few with
  | .error error, _ => rfl
  | .ok [], _ => rfl
  | .ok [row], _ =>
      have single : [row].mapM mapper = (mapper row).map fun item => [item] := by
        cases read : mapper row <;> simp [read, bind, Except.bind, pure, Except.pure, Except.map]
      simp only [Execution.reading, Execution.map, Except.bind, single]
      cases mapper row <;> rfl
  | .ok (first :: second :: rest), few => simpa using few _ rfl

/-- The calls ask for the same and report the same. -/
theorem get_eq_head_getList (honours : store.HonoursLimits) (q : Query) (entity : Entity α) :
    q.get store entity = ((q.withLimit 1).getList store entity).map List.head? := by
  apply reading_head
  intro rows ran
  have cut := @answer_withLimit store entity.table entity.columns honours q 1
  cases answer : store (q.request entity.table entity.columns none) with
  | error error =>
      rw [answer] at cut
      rw [q.run_of_error cut] at ran
      cases ran
  | ok all =>
      rw [answer] at cut
      rw [q.run_of_ok cut] at ran
      cases ran
      exact List.length_take_le 1 all

theorem result_count_of_honours (honours : store.HonoursLimits) {rows : List Row}
    (answer : store (q.request entity.table columns none) = .ok rows) :
    (q.count store entity).result = .ok rows.length := by
  have sized := @length_answer store entity.table columns honours q [entity.idColumn] none
  rw [answer] at sized
  cases counted : store (q.request entity.table [entity.idColumn] none) with
  | error error =>
      rw [counted] at sized
      cases sized
  | ok others =>
      rw [counted] at sized
      have same : others.length = rows.length := Except.ok.inj sized
      rw [q.result_count_of_answer counted, same]

/-- Getting one is getting a list of one at most. Where the whole list can be got, one is its first,
the count its length and a list with a limit its beginning, whatever limits were set before. -/
theorem calls_agree (honours : store.HonoursLimits) (q : Query) (entity : Entity α) :
    q.get store entity = ((q.withLimit 1).getList store entity).map List.head? ∧
      ∀ items, (({ q with limit := none } : Query).getList store entity).result = .ok items →
        (q.get store entity).result = .ok items.head? ∧
          (q.count store entity).result = .ok items.length ∧
          ∀ n, ((q.withLimit n).get store entity).result = .ok items.head? ∧
            ((q.withLimit n).count store entity).result = .ok items.length ∧
            ((q.withLimit n).getList store entity).result = .ok (items.take n.toNat) := by
  have first := get_eq_head_getList honours q entity
  refine ⟨first, fun items all => ?_⟩
  obtain ⟨rows, answer, read⟩ := rows_of_getList all
  have answer : store (q.request entity.table entity.columns none) = .ok rows := answer
  have cut (n : UInt64) :
      ((q.withLimit n).getList store entity).result = .ok (items.take n.toNat) := by
    refine result_getList_take ?_ read
    rw [answer_withLimit honours q n, answer]
    rfl
  have got : (q.get store entity).result = .ok items.head? := by
    rw [first, Execution.map, cut 1]
    cases items <;> rfl
  have counted : (q.count store entity).result = .ok items.length := by
    have same : rows.length = items.length := by
      simpa using congrArg List.length (mapM_eq_ok_iff.mp read)
    rw [result_count_of_honours honours answer, same]
  exact ⟨got, counted, fun n => ⟨got, counted, cut n⟩⟩

private def oldest : Query :=
  ((Query.empty.push .and ⟨"open", .plain .eq, .scalar (.bool true)⟩).orderAsc "_id").withLimit 0

private def logEntity : Entity (List Field) :=
  .ofFields "log" "_id" ["_id", "note"] [(.integer, "_id"), (.optionalText, "note")]

private def logRows : List Row :=
  [.ofPairs [("_id", .integer 3), ("note", .null)],
    .ofPairs [("_id", .integer 8), ("note", .text "late")]]

theorem calls_agree_oldest :
    (Store.limited logRows).HonoursLimits ∧
      (oldest.get (.limited logRows) logEntity).result =
        .ok (some [.integer (some 3), .text none]) ∧
      (oldest.count (.limited logRows) logEntity).result = .ok 2 ∧
      ((oldest.withLimit 1).getList (.limited logRows) logEntity).result =
        .ok [[.integer (some 3), .text none]] ∧
      (oldest.getList (.limited logRows) logEntity).result = .ok [] := by
  have honours := Store.honoursLimits_limited logRows
  obtain ⟨get, count, cut⟩ := (calls_agree honours oldest logEntity).2
    [[.integer (some 3), .text none], [.integer (some 8), .text (some "late")]] rfl
  exact ⟨honours, get, count, (cut 1).2.2, (cut 0).2.2⟩

end Query

namespace Sql

variable {db : Database} {outer : Scope} {columns : List String} {table : String}
  {condition : Option Expr} {orderings : List SortKey}

namespace Database

variable {db : Database} {q : Query} {table : String} {columns : List String}
  {limit : Option UInt64}

end Database

end Sql

namespace Query

variable {q : Query} {db : Database} {entity : Entity α} {items : List α}

end Query

end Criteria
