import Mathlib.Data.List.Perm.Basic
import Criteria.Execution

namespace Criteria

section Reading

variable {α : Type} {mapper : Row → Except MappingError α} {rows : List Row}

/-- Why the first row that cannot be read cannot be read. -/
def FirstFault (mapper : Row → Except MappingError α) (rows : List Row) (fault : MappingError) :
    Prop :=
  ∃ before row after, rows = before ++ row :: after ∧
    (∀ earlier ∈ before, ∃ item, mapper earlier = .ok item) ∧ mapper row = .error fault

theorem FirstFault.head {row : Row} {fault : MappingError} (failed : mapper row = .error fault)
    (rest : List Row) : FirstFault mapper (row :: rest) fault :=
  ⟨[], row, rest, rfl, by simp, failed⟩

theorem FirstFault.cons {row : Row} {item : α} {fault : MappingError}
    (read : mapper row = .ok item) (later : FirstFault mapper rows fault) :
    FirstFault mapper (row :: rows) fault := by
  obtain ⟨before, last, after, rfl, earlier, failed⟩ := later
  exact ⟨row :: before, last, after, rfl, List.forall_mem_cons.mpr ⟨⟨item, read⟩, earlier⟩, failed⟩

theorem FirstFault.mapM {fault : MappingError} (first : FirstFault mapper rows fault) :
    rows.mapM mapper = .error fault := by
  obtain ⟨before, row, after, rfl, earlier, failed⟩ := first
  induction before with
  | nil => simp [failed, bind, Except.bind]
  | cons next before induction =>
      obtain ⟨⟨item, read⟩, others⟩ := List.forall_mem_cons.mp earlier
      simp [read, induction others, bind, Except.bind]

theorem mapM_of_map_eq {items : List α} (read : rows.map mapper = items.map .ok) :
    rows.mapM mapper = .ok items := by
  induction rows generalizing items with
  | nil =>
      obtain rfl : items = [] := by simpa using read.symm
      rfl
  | cons row rest induction =>
      cases items with
      | nil => simp at read
      | cons item items =>
          simp only [List.map_cons, List.cons.injEq] at read
          simp [read.1, induction read.2, bind, Except.bind, pure, Except.pure]

/-- Either every row is read or there is a first that is not. -/
theorem readable_or_firstFault (mapper : Row → Except MappingError α) (rows : List Row) :
    (∃ items : List α, rows.map mapper = items.map .ok) ∨ ∃ fault, FirstFault mapper rows fault := by
  induction rows with
  | nil => exact .inl ⟨[], rfl⟩
  | cons row rest induction =>
      cases read : mapper row with
      | error fault => exact .inr ⟨fault, .head read rest⟩
      | ok item =>
          rcases induction with ⟨items, later⟩ | ⟨fault, later⟩
          · exact .inl ⟨item :: items, by simp [read, later]⟩
          · exact .inr ⟨fault, later.cons read⟩

theorem mapM_eq_ok_iff {items : List α} :
    rows.mapM mapper = .ok items ↔ rows.map mapper = items.map .ok := by
  refine ⟨fun all => ?_, mapM_of_map_eq⟩
  rcases readable_or_firstFault mapper rows with ⟨others, read⟩ | ⟨fault, first⟩
  · rw [mapM_of_map_eq read] at all
    cases all
    exact read
  · simp [first.mapM] at all

theorem mapM_eq_error_iff {fault : MappingError} :
    rows.mapM mapper = .error fault ↔ FirstFault mapper rows fault := by
  refine ⟨fun failed => ?_, FirstFault.mapM⟩
  rcases readable_or_firstFault mapper rows with ⟨items, read⟩ | ⟨other, first⟩
  · simp [mapM_of_map_eq read] at failed
  · rw [first.mapM] at failed
    cases failed
    exact first

/-- Rows in another order are read as the items in another order. -/
theorem mapM_perm {others : List Row} {items : List α} (read : rows.mapM mapper = .ok items)
    (perm : others.Perm rows) :
    ∃ found, others.mapM mapper = .ok found ∧ found.Perm items := by
  rw [mapM_eq_ok_iff] at read
  have mapped := perm.map mapper
  rw [read] at mapped
  obtain ⟨found, same, among⟩ := (congrFun₂ (List.eq_map_comp_perm _) _ _).mpr mapped
  exact ⟨found, mapM_eq_ok_iff.mpr same, among⟩

theorem mapM_congr {other : Row → Except MappingError α}
    (same : ∀ row ∈ rows, other row = mapper row) : rows.mapM other = rows.mapM mapper := by
  induction rows with
  | nil => rfl
  | cons row rest induction =>
      obtain ⟨here, later⟩ := List.forall_mem_cons.mp same
      rw [List.mapM_cons, List.mapM_cons, here, induction later]

end Reading

theorem mapError_eq_ok_iff {result : Except ε α} {f : ε → δ} {a : α} :
    result.mapError f = .ok a ↔ result = .ok a := by
  cases result with
  | ok b => exact ⟨fun same => by cases same; rfl, fun same => by cases same; rfl⟩
  | error e => exact ⟨nofun, nofun⟩

theorem mapError_eq_error_iff {result : Except ε α} {f : ε → δ} {d : δ} :
    result.mapError f = .error d ↔ ∃ e, d = f e ∧ result = .error e := by
  cases result with
  | ok b => exact ⟨nofun, fun ⟨_, _, same⟩ => nomatch same⟩
  | error e =>
      refine ⟨fun same => ?_, ?_⟩
      · cases same
        exact ⟨e, rfl, rfl⟩
      · rintro ⟨_, rfl, same⟩
        cases same
        rfl

def Event.shown (event : Event) : String × String × List (String × String) :=
  (event.level.name, event.message, event.fields)

namespace Execution

theorem result_reading {read : α → Except MappingError β} {e : Execution α} {a : α} {b : β}
    (ran : e.result = .ok a) (accepted : read a = .ok b) : (e.reading read).result = .ok b := by
  have mapped : (read a).mapError QueryError.mapping = .ok b := mapError_eq_ok_iff.mpr accepted
  rw [reading, ran]
  exact mapped

theorem result_reading_error (read : α → Except MappingError β) {e : Execution α}
    {error : QueryError} (failed : e.result = .error error) :
    (e.reading read).result = .error error := by
  rw [reading, failed]
  rfl

def issuing (request : Request) : String × String × List (String × String) :=
  ("DEBUG", "issuing query",
    [("table", request.table), ("selection", request.selection),
      ("args", toString request.arguments.length)])

/-- The request is the only one. A failure of the store is reported and is the result; an answer is
reported before it is read. -/
structure Asks {β : Type} (e : Execution β) (store : Store) (request : Request) : Prop where
  requests : e.requests = [request]
  failed : ∀ error, store request = .error error →
    e.result = .error (.storageUnavailable error) ∧
      e.events.map Event.shown =
        [issuing request,
          ("WARN", "storage query failed",
            [("table", request.table), ("error", error.message)])]
  answered : ∀ rows, store request = .ok rows →
    e.events.map Event.shown =
      [issuing request,
        ("TRACE", "query returned",
          [("table", request.table), ("rows", toString rows.length)])]

variable {β γ : Type} {e : Execution β} {store : Store} {request : Request}

theorem Asks.map (asks : e.Asks store request) (f : β → γ) : (e.map f).Asks store request where
  requests := asks.requests
  failed error failed := by
    obtain ⟨result, events⟩ := asks.failed error failed
    exact ⟨by simp [Execution.map, result, Except.map], events⟩
  answered := asks.answered

theorem Asks.reading (asks : e.Asks store request) (read : β → Except MappingError γ) :
    (e.reading read).Asks store request where
  requests := asks.requests
  failed error failed := by
    obtain ⟨result, events⟩ := asks.failed error failed
    exact ⟨result_reading_error read result, events⟩
  answered := asks.answered

end Execution

namespace Query

section Run

variable {store : Store} {table : String} {columns : List String} {limit : Option UInt64}

theorem run_of_ok (q : Query) {rows : List Row}
    (answer : store (q.request table columns limit) = .ok rows) :
    q.run store table columns limit =
      ⟨[q.request table columns limit],
        [.issuingQuery table q.compile.selection q.compile.arguments.length,
          .queryReturned table rows.length],
        .ok rows⟩ := by
  simp only [run, answer]
  rfl

theorem run_of_error (q : Query) {error : StorageError}
    (answer : store (q.request table columns limit) = .error error) :
    q.run store table columns limit =
      ⟨[q.request table columns limit],
        [.issuingQuery table q.compile.selection q.compile.arguments.length,
          .queryFailed table error.message],
        .error (.storageUnavailable error)⟩ := by
  simp only [run, answer]
  rfl

theorem asks_run (q : Query) (store : Store) (table : String) (columns : List String)
    (limit : Option UInt64) :
    (q.run store table columns limit).Asks store (q.request table columns limit) where
  requests := by
    cases answer : store (q.request table columns limit) with
    | ok rows => rw [q.run_of_ok answer]
    | error error => rw [q.run_of_error answer]
  failed error answer := by
    rw [q.run_of_error answer]
    exact ⟨rfl, rfl⟩
  answered rows answer := by
    rw [q.run_of_ok answer]
    rfl

end Run

variable {α : Type} (q : Query) (store : Store) (entity : Entity α)

theorem asks_get :
    (q.get store entity).Asks store (q.request entity.table entity.columns (some 1)) :=
  (q.asks_run store entity.table entity.columns (some 1)).reading _

theorem asks_getList :
    (q.getList store entity).Asks store (q.request entity.table entity.columns q.limit) :=
  (q.asks_run store entity.table entity.columns q.limit).reading _

theorem asks_count :
    (q.count store entity).Asks store (q.request entity.table [entity.idColumn] none) :=
  (q.asks_run store entity.table [entity.idColumn] none).map List.length

variable {store} {entity}

theorem result_get_nil
    (answer : store (q.request entity.table entity.columns (some 1)) = .ok []) :
    (q.get store entity).result = .ok none := by
  unfold get
  rw [q.run_of_ok answer]
  rfl

theorem result_get_cons {row : Row} {rest : List Row}
    (answer : store (q.request entity.table entity.columns (some 1)) = .ok (row :: rest)) :
    (q.get store entity).result = ((entity.mapper row).map some).mapError .mapping := by
  unfold get
  rw [q.run_of_ok answer]
  rfl

theorem result_getList_of_answer {rows : List Row}
    (answer : store (q.request entity.table entity.columns q.limit) = .ok rows) :
    (q.getList store entity).result = (rows.mapM entity.mapper).mapError .mapping := by
  unfold getList
  rw [q.run_of_ok answer]
  rfl

theorem result_count_of_answer {rows : List Row}
    (answer : store (q.request entity.table [entity.idColumn] none) = .ok rows) :
    (q.count store entity).result = .ok rows.length := by
  unfold count
  rw [q.run_of_ok answer]
  rfl

variable {mapper : Row → Except MappingError α}

theorem get_congr
    (same : ∀ rows, store (q.request entity.table entity.columns (some 1)) = .ok rows →
      ∀ row ∈ rows.head?, mapper row = entity.mapper row) :
    q.get store { entity with mapper } = q.get store entity := by
  unfold get
  cases answer : store (q.request entity.table entity.columns (some 1)) with
  | error error =>
      rw [q.run_of_error answer]
      rfl
  | ok rows =>
      rw [q.run_of_ok answer]
      cases rows with
      | nil => rfl
      | cons row rest =>
          have first := same (row :: rest) answer row rfl
          simp only [Execution.reading, Except.bind, first]

theorem getList_congr
    (same : ∀ rows, store (q.request entity.table entity.columns q.limit) = .ok rows →
      ∀ row ∈ rows, mapper row = entity.mapper row) :
    q.getList store { entity with mapper } = q.getList store entity := by
  unfold getList
  cases answer : store (q.request entity.table entity.columns q.limit) with
  | error error =>
      rw [q.run_of_error answer]
      rfl
  | ok rows =>
      rw [q.run_of_ok answer]
      have read := mapM_congr (same rows answer)
      simp only [Execution.reading, Except.bind, read]

/-- A call asks for what it has to, once, and never for the query's projection; a failure of the
store is its result. What the store answers is read row by row: `get` reads the first row alone,
`getList` all of them up to the first that cannot be read, and `count` none. -/
theorem execution_contract (q : Query) (store : Store) (entity : Entity α) :
    (∀ columns limit, q.request entity.table columns limit =
        ⟨entity.table, columns, q.compile.selection, q.compile.arguments,
          SortKey.orderText? q.orderings, limit⟩) ∧
      (q.get store entity).Asks store (q.request entity.table entity.columns (some 1)) ∧
      (q.getList store entity).Asks store (q.request entity.table entity.columns q.limit) ∧
      (q.count store entity).Asks store (q.request entity.table [entity.idColumn] none) ∧
      (∀ rows, store (q.request entity.table entity.columns (some 1)) = .ok rows →
        (rows = [] → (q.get store entity).result = .ok none) ∧
          ∀ row ∈ rows.head?,
            (∀ item, entity.mapper row = .ok item →
              (q.get store entity).result = .ok (some item)) ∧
            ∀ fault, entity.mapper row = .error fault →
              (q.get store entity).result = .error (.mapping fault)) ∧
      (∀ rows, store (q.request entity.table entity.columns q.limit) = .ok rows →
        (∀ items, (q.getList store entity).result = .ok items ↔
            rows.map entity.mapper = items.map .ok) ∧
          ∀ error, (q.getList store entity).result = .error error ↔
            ∃ fault, error = .mapping fault ∧ FirstFault entity.mapper rows fault) ∧
      (∀ rows, store (q.request entity.table [entity.idColumn] none) = .ok rows →
        (q.count store entity).result = .ok rows.length) ∧
      ∀ mapper : Row → Except MappingError α,
        ((∀ rows, store (q.request entity.table entity.columns (some 1)) = .ok rows →
            ∀ row ∈ rows.head?, mapper row = entity.mapper row) →
          q.get store { entity with mapper } = q.get store entity) ∧
        ((∀ rows, store (q.request entity.table entity.columns q.limit) = .ok rows →
            ∀ row ∈ rows, mapper row = entity.mapper row) →
          q.getList store { entity with mapper } = q.getList store entity) ∧
        q.count store { entity with mapper } = q.count store entity := by
  refine ⟨fun _ _ => rfl, q.asks_get store entity, q.asks_getList store entity,
    q.asks_count store entity, fun rows answer => ⟨?_, fun row first => ⟨?_, ?_⟩⟩,
    fun rows answer => ⟨fun items => ?_, fun error => ?_⟩, fun _ => q.result_count_of_answer,
    fun mapper => ⟨q.get_congr, q.getList_congr, rfl⟩⟩
  · rintro rfl
    exact q.result_get_nil answer
  · intro item read
    obtain ⟨rest, rfl⟩ := List.head?_eq_some_iff.mp first
    rw [q.result_get_cons answer, read]
    rfl
  · intro fault read
    obtain ⟨rest, rfl⟩ := List.head?_eq_some_iff.mp first
    rw [q.result_get_cons answer, read]
    rfl
  · rw [q.result_getList_of_answer answer, ← mapM_eq_ok_iff]
    exact mapError_eq_ok_iff
  · rw [q.result_getList_of_answer answer]
    simp only [← mapM_eq_error_iff]
    exact mapError_eq_error_iff

private def latest : Query :=
  ((Query.empty.push .and ⟨"open", .plain .eq, .scalar (.bool true)⟩).select "name").orderDesc "_id"

private def numbered : Entity (List Field) :=
  .ofFields "notes" "_id" ["_id", "name"] [(.integer, "_id")]

/-- The second row cannot be read. -/
private def twoRows : List Row :=
  [.ofPairs [("_id", .integer 7)], .ofPairs [("_id", .text "x")]]

private def locked : StorageError :=
  ⟨"database is locked", none⟩

theorem execution_contract_latest :
    (latest.get (.serving twoRows) numbered).result = .ok (some [.integer (some 7)]) ∧
      (latest.getList (.serving twoRows) numbered).result =
        .error (.mapping (.typeMismatch "_id" "integer" "text")) ∧
      (latest.count (.serving twoRows) numbered).result = .ok 2 ∧
      (latest.getList (.failing locked) numbered).result = .error (.storageUnavailable locked) := by
  obtain ⟨_, _, _, _, get, getList, count, _⟩ :=
    execution_contract latest (.serving twoRows) numbered
  obtain ⟨_, _, failing, _⟩ := execution_contract latest (.failing locked) numbered
  have second : FirstFault numbered.mapper twoRows (.typeMismatch "_id" "integer" "text") :=
    ⟨[.ofPairs [("_id", .integer 7)]], .ofPairs [("_id", .text "x")], [], rfl,
      by simpa using ⟨[.integer (some 7)], rfl⟩, rfl⟩
  exact ⟨((get twoRows rfl).2 _ rfl).1 _ rfl, ((getList twoRows rfl).2 _).mpr ⟨_, rfl, second⟩,
    count twoRows rfl, (failing.failed locked rfl).1⟩

end Query

end Criteria
