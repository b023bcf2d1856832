import Criteria.Tasks.Command

namespace Criteria.Tasks.Action

/-- The action answers the result and leaves the database as the last one. -/
def Leads (action : Action α) (before : Sql.Database) (result : Except CommandError α)
    (after : Sql.Database) : Prop :=
  ∀ events, ∃ reported, action.run.run ⟨before, events⟩ = (result, ⟨after, events ++ reported⟩)

namespace Leads

variable {before middle after : Sql.Database}

theorem pure (a : α) : Leads (Pure.pure a) before (.ok a) before := fun _ =>
  ⟨[], by simp only [List.append_nil]; rfl⟩

theorem throw (error : CommandError) :
    Leads (MonadExcept.throw error : Action α) before (.error error) before := fun _ =>
  ⟨[], by simp only [List.append_nil]; rfl⟩

theorem bind {action : Action α} {next : α → Action β} {a : α} {result : Except CommandError β}
    (first : action.Leads before (.ok a) middle) (later : (next a).Leads middle result after) :
    (action >>= next).Leads before result after := by
  intro events
  obtain ⟨reported, ran⟩ := first events
  obtain ⟨more, continued⟩ := later (events ++ reported)
  refine ⟨reported ++ more, ?_⟩
  rw [ExceptT.run_bind, StateT.run_bind, ran, ← List.append_assoc]
  exact continued

theorem bind_error {action : Action α} {next : α → Action β} {error : CommandError}
    (failed : action.Leads before (.error error) after) :
    (action >>= next).Leads before (.error error) after := by
  intro events
  obtain ⟨reported, ran⟩ := failed events
  refine ⟨reported, ?_⟩
  rw [ExceptT.run_bind, StateT.run_bind, ran]
  rfl

theorem report (event : Event) : (report event).Leads before (.ok ()) before := fun _ =>
  ⟨[event], rfl⟩

theorem run_ask (execution : Store → Execution α) (s : Session) :
    (Action.ask execution).run.run s =
      (ofQuery (execution s.database.store).result).run.run
        { s with events := s.events ++ (execution s.database.store).events } := rfl

theorem ask (execution : Store → Execution α) {a : α}
    (answered : (execution before.store).result = .ok a) :
    (ask execution).Leads before (.ok a) before := by
  intro events
  refine ⟨(execution before.store).events, ?_⟩
  rw [run_ask, answered]
  rfl

theorem ask_error (execution : Store → Execution α) {error : QueryError}
    (failed : (execution before.store).result = .error error) :
    (Action.ask execution).Leads before (.error (.query error)) before := by
  intro events
  refine ⟨(execution before.store).events, ?_⟩
  rw [run_ask, failed]
  rfl

theorem run_change (f : Sql.Database → Except Sql.Failure (α × Sql.Database))
    (cause : Sql.Failure → CommandError) (s : Session) :
    (Action.change f cause).run.run s =
      ((match f s.database with
        | .ok (a, database) => do
            modify fun s => { s with database }
            return a
        | .error failure => MonadExcept.throw (cause failure)) : Action α).run.run s := rfl

theorem change {f : Sql.Database → Except Sql.Failure (α × Sql.Database)}
    (cause : Sql.Failure → CommandError) {a : α} (changed : f before = .ok (a, after)) :
    (Action.change f cause).Leads before (.ok a) after := by
  intro events
  refine ⟨[], ?_⟩
  rw [run_change, changed, List.append_nil]
  rfl

theorem change_error {f : Sql.Database → Except Sql.Failure (α × Sql.Database)}
    (cause : Sql.Failure → CommandError) {failure : Sql.Failure}
    (failed : f before = .error failure) :
    (Action.change f cause).Leads before (.error (cause failure)) before := by
  intro events
  refine ⟨[], ?_⟩
  rw [run_change, failed, List.append_nil]
  rfl

theorem perform {f : Sql.Database → Except Sql.Failure Sql.Database}
    (cause : Sql.Failure → CommandError) (changed : f before = .ok after) :
    (Action.perform f cause).Leads before (.ok ()) after :=
  change cause (by rw [changed]; rfl)

end Leads

/-- The action leaves the database as it is, whether or not it fails. -/
def Keeps (action : Action α) (db : Sql.Database) : Prop :=
  ∃ result, action.Leads db result db

namespace Keeps

variable {db : Sql.Database}

theorem bind {action : Action α} {next : α → Action β} (first : action.Keeps db)
    (later : ∀ a, (next a).Keeps db) : (action >>= next).Keeps db := by
  obtain ⟨result, leads⟩ := first
  cases result with
  | error error => exact ⟨_, leads.bind_error⟩
  | ok a =>
      obtain ⟨answer, continued⟩ := later a
      exact ⟨answer, leads.bind continued⟩

theorem pure (a : α) : Keeps (Pure.pure a) db :=
  ⟨_, .pure a⟩

theorem ofQuery (result : Except QueryError α) : (Action.ofQuery result).Keeps db := by
  cases result with
  | ok a => exact ⟨_, .pure a⟩
  | error error => exact ⟨_, .throw (.query error)⟩

theorem report (event : Event) : (Action.report event).Keeps db :=
  ⟨_, .report event⟩

theorem ask (execution : Store → Execution α) : (Action.ask execution).Keeps db := by
  cases answered : (execution db.store).result with
  | ok a => exact ⟨_, .ask execution answered⟩
  | error error => exact ⟨_, .ask_error execution answered⟩

end Keeps

end Criteria.Tasks.Action
