import Mathlib.Data.List.Find
import Mathlib.Data.List.Nodup
import Criteria.Proofs.Records
import Criteria.Proofs.Rows
import Criteria.Proofs.Tasks.Effects
import Criteria.Proofs.Tasks.Stored

namespace Criteria.Tasks

open Criteria.Sql

theorem TaskList.ofRow_map {cells : String → Cell} {list : TaskList}
    (id : cells "_id" = .integer list.id) (name : cells "name" = .text list.name) :
    TaskList.ofRow ⟨TaskList.entity.columns, TaskList.entity.columns.map cells⟩ = .ok list := by
  have held {column : String} (member : column ∈ TaskList.entity.columns) :=
    Row.get?_map cells member
  have id := Row.integer_of_get? ((held (by simp [TaskList.entity])).trans (congrArg some id))
  have name := Row.text_of_get? ((held (by simp [TaskList.entity])).trans (congrArg some name))
  rw [TaskList.ofRow, id, name]
  rfl

theorem Task.ofRow_map {cells : String → Cell} {task : Task}
    (id : cells "_id" = .integer task.id) (listId : cells "list_id" = .integer task.listId)
    (name : cells "name" = .text task.name) (content : cells "content" = .text task.content)
    (done : cells "done" = .integer (doneValue task.done))
    (priority : cells "priority" = .integer task.priority) :
    Task.ofRow ⟨Task.entity.columns, Task.entity.columns.map cells⟩ = .ok task := by
  have held {column : String} (member : column ∈ Task.entity.columns) := Row.get?_map cells member
  have id := Row.integer_of_get? ((held (by simp [Task.entity])).trans (congrArg some id))
  have listId := Row.integer_of_get? ((held (by simp [Task.entity])).trans (congrArg some listId))
  have name := Row.text_of_get? ((held (by simp [Task.entity])).trans (congrArg some name))
  have content := Row.optionalText_of_get?
    ((held (by simp [Task.entity])).trans (congrArg some content))
  have done := Row.boolean_of_get? ((held (by simp [Task.entity])).trans (congrArg some done))
  have priority := Row.integer_of_get?
    ((held (by simp [Task.entity])).trans (congrArg some priority))
  rw [Task.ofRow, id, listId, name, content, done, priority]
  rfl

namespace Board

variable {board : Board} {plan : Plan}

def listFrame (list : TaskList) : Frame :=
  ⟨Tasks.listTable.columns, list.values⟩

def itemFrame (item : Item) : Frame :=
  ⟨Tasks.taskTable.columns, item.task.values⟩

theorem value_listFrame (list : TaskList) (outer : Scope) :
    Scope.value (listFrame list :: outer) "_id" = .integer list.id ∧
      Scope.value (listFrame list :: outer) "name" = .ofString list.name := by
  simp [Scope.value, Scope.find?, listFrame, Frame.find?, Tasks.listTable, TaskList.values,
    sameName]

theorem affinity_listFrame (list : TaskList) (outer : Scope) :
    Scope.affinity (listFrame list :: outer) "name" = .text := by
  simp [Scope.affinity, Scope.find?, listFrame, Frame.find?, Tasks.listTable, TaskList.values,
    sameName]

theorem value_itemFrame (item : Item) (outer : Scope) :
    Scope.value (itemFrame item :: outer) "_id" = .integer item.id ∧
      Scope.value (itemFrame item :: outer) "list_id" = .integer item.list.id ∧
      Scope.value (itemFrame item :: outer) "name" = .ofString item.name ∧
      Scope.value (itemFrame item :: outer) "content" = .ofString item.content ∧
      Scope.value (itemFrame item :: outer) "done" = .integer (doneValue item.done) ∧
      Scope.value (itemFrame item :: outer) "priority" = .integer item.priority := by
  simp [Scope.value, Scope.find?, itemFrame, Frame.find?, Tasks.taskTable, Task.values, Item.task,
    sameName]

theorem affinity_itemFrame (item : Item) (outer : Scope) :
    Scope.affinity (itemFrame item :: outer) "_id" = .integer ∧
      Scope.affinity (itemFrame item :: outer) "list_id" = .integer ∧
      Scope.affinity (itemFrame item :: outer) "done" = .integer ∧
      Scope.affinity (itemFrame item :: outer) "priority" = .integer := by
  simp [Scope.affinity, Scope.find?, itemFrame, Frame.find?, Tasks.taskTable, Task.values,
    Item.task, sameName]

theorem holdsLists (board : Board) (plan : Plan) :
    Holds (board.database plan) TaskList.entity board.listTable TaskList.values id board.lists where
  found := (board.table?_lists plan)
  rows := rfl
  named := by
    simp [TaskList.entity, listTable, Tasks.listTable, findColumn?, sameName]
  filled := rfl
  read list := by
    obtain ⟨id, name⟩ := value_listFrame list []
    exact TaskList.ofRow_map (congrArg Datum.cell id)
      ((congrArg Datum.cell name).trans (Datum.cell_ofString _))

theorem holdsItems (board : Board) (plan : Plan) :
    Holds (board.database plan) Task.entity board.taskTable (fun item => item.task.values) Item.task
      board.items where
  found := (board.table?_tasks plan)
  rows := rfl
  named := by
    simp [Task.entity, taskTable, Tasks.taskTable, findColumn?, sameName]
  filled := rfl
  read item := by
    obtain ⟨id, listId, name, content, done, priority⟩ := value_itemFrame item []
    exact Task.ofRow_map (congrArg Datum.cell id) (congrArg Datum.cell listId)
      ((congrArg Datum.cell name).trans (Datum.cell_ofString _))
      ((congrArg Datum.cell content).trans (Datum.cell_ofString _)) (congrArg Datum.cell done)
      (congrArg Datum.cell priority)

/-- The query for the rows with one value in a column. -/
def equalTo (column : String) (value : Scalar) : Query :=
  Query.empty.push .and ⟨column, .plain .eq, .scalar value⟩

theorem andEq_empty {column : String} {value : Scalar} (shown : Text.isBlank column = false)
    (finite : value.isFinite) :
    Query.empty.andEq column (.scalar value) = .ok (equalTo column value) := by
  simp [Query.andEq, Query.and, Query.add, Condition.make, shown, Value.shapeFault?,
    Op.isMembership, Op.plain, Value.isFinite, finite, Except.map, equalTo]

theorem entries_equalTo (column : String) (value : Scalar) :
    (equalTo column value).entries = [⟨.and, .condition ⟨column, .plain .eq, .scalar value⟩⟩] := rfl

theorem wellFormed_equalTo {column : String} {value : Scalar}
    (shown : Text.isBlank column = false) (finite : value.isFinite) :
    (equalTo column value).WellFormed := by
  rw [Query.wellFormed_iff, entries_equalTo]
  exact ⟨⟨shown, rfl, finite⟩, trivial⟩

theorem plainNames_equalTo {table column : String} {columns : List String} (value : Scalar)
    (plainTable : IsPlainName table) (plain : ∀ name ∈ column :: columns, IsPlainName name) :
    (equalTo column value).PlainNames table columns where
  table := plainTable
  columns name member := plain name (by simp [member])
  conditions name member := by
    obtain rfl : name = column := by
      simpa [entries_equalTo, Entry.names, Node.names, Condition.names, Value.names] using member
    exact plain name (by simp)
  orderings key member := by cases member

theorem answerable_equalTo {entity : Entity β} {db : Database} {t : Table} {column : String}
    {value : Scalar} (shown : Text.isBlank column = false) (finite : value.isFinite)
    (plainTable : IsPlainName entity.table)
    (plain : ∀ name ∈ column :: entity.columns, IsPlainName name)
    (found : ∀ name ∈ column :: entity.columns, (findColumn? t.columns name).isSome) :
    (equalTo column value).Answerable db entity t where
  formed := wellFormed_equalTo shown finite
  plain := plainNames_equalTo value plainTable plain
  columns name member := by
    have among : name ∈ entity.columns := by
      simpa [equalTo, Query.push, Query.empty] using member
    exact found name (by simp [among])
  conditions entry member := by
    rw [entries_equalTo, List.mem_singleton] at member
    subst member
    have here := found column (by simp)
    simp [Node.toExpr, Condition.toExpr, Op.plain, Value.toExpr, Comparison.relation?, Expr.check,
      Reach.check, here]
  unlimited entry member := by
    rw [entries_equalTo, List.mem_singleton] at member
    subst member
    rfl

theorem admits_equalTo (db : Database) {scope : Scope} {column : String} {value : Scalar}
    {holds : Bool} (compared : scope.compare column .eq (some value.canonical) = .ofBool holds) :
    Expr.admits db scope (Entry.toExpr? (equalTo column value).entries) = holds := by
  rw [entries_equalTo, Entry.admits_toExpr? (by simp)]
  simp [Node.toExpr, Condition.toExpr, Op.plain, Value.toExpr, Comparison.relation?, Expr.truth,
    compared]

/-- Where one record at most is asked for, no order gets another. -/
theorem head?_of_perm {α : Type} {records chosen : List α} {p : α → Bool}
    (perm : chosen.Perm (records.filter p))
    (single : ∀ r ∈ records, ∀ s ∈ records, p r = true → p s = true → r = s) :
    chosen.head? = records.find? p := by
  have among {r : α} (member : r ∈ chosen) : r ∈ records ∧ p r = true :=
    List.mem_filter.mp (perm.mem_iff.mp member)
  have kept : chosen.filter p = chosen :=
    List.filter_eq_self.mpr fun _ member => (among member).2
  have one : {r ∈ chosen | p r}.Subsingleton := fun r first s second =>
    single r (among first.1).1 s (among second.1).1 first.2 second.2
  rw [← kept, List.head?_filter, List.find?_eq_find?_of_perm perm one, List.find?_filter]
  simp

theorem get_list (consistent : board.Consistent) (name : String) :
    ((equalTo "name" (.text name)).get (board.database plan).store TaskList.entity).result =
      .ok (board.list? name) := by
  have answerable : (equalTo "name" (.text name)).Answerable (board.database plan)
      TaskList.entity board.listTable := by
    apply answerable_equalTo rfl rfl (by decide) (by decide)
    simp [TaskList.entity, listTable, Tasks.listTable, findColumn?, sameName]
  have named (list : TaskList) : Expr.admits (board.database plan) [listFrame list]
      (Entry.toExpr? (equalTo "name" (.text name)).entries) = decide (list.name = name) :=
    admits_equalTo _
      (Scope.compare_text (affinity_listFrame list []) (value_listFrame list []).2 name)
  obtain ⟨chosen, choice, answered⟩ := (board.holdsLists plan).result_get answerable
  have single : ∀ list ∈ board.lists, ∀ other ∈ board.lists,
      decide (list.name = name) = true → decide (other.name = name) = true → list = other := by
    intro list member other member' same same'
    refine List.inj_on_of_nodup_map consistent.names member member' ?_
    rw [of_decide_eq_true same, of_decide_eq_true same']
  have perm : chosen.Perm (board.lists.filter fun list => decide (list.name = name)) :=
    choice.perm.trans (.of_eq (congrArg (fun p => board.lists.filter p) (funext named)))
  rw [answered, head?_of_perm perm single, Option.map_id]
  rfl

theorem get_item (consistent : board.Consistent) (id : Int64) :
    ((equalTo "_id" (.int id)).get (board.database plan).store Task.entity).result =
      .ok ((board.items.find? (·.id = id)).map Item.task) := by
  have answerable : (equalTo "_id" (.int id)).Answerable (board.database plan) Task.entity
      board.taskTable := by
    apply answerable_equalTo rfl rfl (by decide) (by decide)
    simp [Task.entity, taskTable, Tasks.taskTable, findColumn?, sameName]
  have identified (item : Item) : Expr.admits (board.database plan) [itemFrame item]
      (Entry.toExpr? (equalTo "_id" (.int id)).entries) = decide (item.id = id) :=
    admits_equalTo _ ((Scope.compare_integer .eq (affinity_itemFrame item []).1
      (value_itemFrame item []).1 id).trans (Datum.related_eq_integer item.id id))
  obtain ⟨chosen, choice, answered⟩ := (board.holdsItems plan).result_get answerable
  have single : ∀ item ∈ board.items, ∀ other ∈ board.items,
      decide (item.id = id) = true → decide (other.id = id) = true → item = other := by
    intro item member other member' same same'
    refine consistent.itemIds.eq_of_mem member member' ?_
    rw [of_decide_eq_true same, of_decide_eq_true same']
  have perm : chosen.Perm (board.items.filter fun item => decide (item.id = id)) :=
    choice.perm.trans (.of_eq (congrArg (fun p => board.items.filter p) (funext identified)))
  rw [answered, head?_of_perm perm single]

theorem findList_leads (consistent : board.Consistent) (name : String) :
    (Action.findList name).Leads (board.database plan) (.ok (board.list? name))
      (board.database plan) := by
  rw [Action.findList, andEq_empty rfl rfl]
  apply Action.Leads.bind (Action.Leads.pure _)
  exact Action.Leads.ask _ (get_list consistent name)

theorem findTask_leads (consistent : board.Consistent) (id : Int64) :
    (Action.findTask id).Leads (board.database plan)
      (.ok ((board.items.find? (·.id = id)).map Item.task)) (board.database plan) := by
  rw [Action.findTask, andEq_empty rfl rfl]
  apply Action.Leads.bind (Action.Leads.pure _)
  exact Action.Leads.ask _ (get_item consistent id)

theorem findList_leads_empty (name : String) :
    ∃ error, (Action.findList name).Leads (.empty plan) (.error error) (.empty plan) := by
  obtain ⟨error, failed⟩ := @Query.result_get_missing _ (.empty plan) (equalTo "name" (.text name))
    TaskList.entity (wellFormed_equalTo rfl rfl)
    (plainNames_equalTo _ (by decide) (by decide)) rfl
  rw [Action.findList, andEq_empty rfl rfl]
  refine ⟨.query error, Action.Leads.bind (Action.Leads.pure _) ?_⟩
  exact Action.Leads.ask_error _ failed

theorem findTask_leads_empty (id : Int64) :
    ∃ error, (Action.findTask id).Leads (.empty plan) (.error error) (.empty plan) := by
  obtain ⟨error, failed⟩ := @Query.result_get_missing _ (.empty plan) (equalTo "_id" (.int id))
    Task.entity (wellFormed_equalTo rfl rfl)
    (plainNames_equalTo _ (by decide) (by decide)) rfl
  rw [Action.findTask, andEq_empty rfl rfl]
  refine ⟨.query error, Action.Leads.bind (Action.Leads.pure _) ?_⟩
  exact Action.Leads.ask_error _ failed

end Board

end Criteria.Tasks
