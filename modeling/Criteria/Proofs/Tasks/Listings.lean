import Criteria.Proofs.Tasks.Refinement

namespace Criteria.Tasks

open Criteria.Sql

def Item.Before (a b : Item) : Prop :=
  b.priority < a.priority ∨ a.priority = b.priority ∧ a.id < b.id

namespace Board

variable {board : Board} {plan : Plan}

def listingKeys : List SortKey :=
  [.desc "priority", .asc "_id"]

theorem order_itemFrame (a b : Item) :
    Scope.order listingKeys [itemFrame a] [itemFrame b] =
      (compare b.priority.toInt a.priority.toInt).then (compare a.id.toInt b.id.toInt) := by
  obtain ⟨firstId, _, _, _, _, firstPriority⟩ := value_itemFrame a []
  obtain ⟨secondId, _, _, _, _, secondPriority⟩ := value_itemFrame b []
  simp only [Scope.order, listingKeys, SortKey.desc, SortKey.asc, List.foldr_cons, List.foldr_nil,
    SortKey.order, firstId, secondId, firstPriority, secondPriority, Datum.order_integer,
    Ordering.then_eq]
  rw [← Std.OrientedOrd.eq_swap]

theorem isLE_order_iff (a b : Item) :
    (Scope.order listingKeys [itemFrame a] [itemFrame b]).isLE = true ↔
      b.priority.toInt < a.priority.toInt ∨
        a.priority.toInt = b.priority.toInt ∧ a.id.toInt ≤ b.id.toInt := by
  rw [order_itemFrame, Ordering.isLE_then_iff_or, Std.compare_eq_lt, Std.compare_eq_iff_eq,
    Std.isLE_compare]
  omega

instance : Std.TransCmp fun a b : Item => Scope.order listingKeys [itemFrame a] [itemFrame b] where
  eq_swap := Std.OrientedCmp.eq_swap
  isLE_trans := Std.TransCmp.isLE_trans

/-- The items that a filter asks for, in the order of its listing. -/
def listed (board : Board) (filter : Filter) : List Item :=
  (board.items.filter (filter.Admits ·)).mergeSort fun a b =>
    (Scope.order listingKeys [itemFrame a] [itemFrame b]).isLE

theorem listed_perm (board : Board) (filter : Filter) :
    (board.listed filter).Perm (board.items.filter (filter.Admits ·)) :=
  List.mergeSort_perm _ _

theorem listed_singleton {lists : List TaskList} {filter : Filter} {item : Item}
    (admits : filter.Admits item) : listed ⟨lists, [item]⟩ filter = [item] := by
  rw [← List.perm_singleton]
  refine (listed_perm _ _).trans (.of_eq ?_)
  exact List.filter_eq_self.mpr (by simpa using admits)

theorem mem_listed (board : Board) (filter : Filter) (item : Item) :
    item ∈ board.listed filter ↔ item ∈ board.items ∧ filter.Admits item := by
  rw [(board.listed_perm filter).mem_iff, List.mem_filter, decide_eq_true_iff]

theorem ordered_listed (board : Board) (filter : Filter) :
    (board.listed filter).Pairwise fun a b =>
      (Scope.order listingKeys [itemFrame a] [itemFrame b]).isLE = true :=
  pairwise_mergeSort _

theorem different_listed (consistent : board.Consistent) (filter : Filter) :
    (board.listed filter).Pairwise fun a b => a.id ≠ b.id := by
  rw [← List.pairwise_map, ← List.Nodup, ((board.listed_perm filter).map Item.id).nodup_iff]
  exact consistent.itemIds.nodup.sublist (List.filter_sublist.map Item.id)

theorem pairwise_listed (consistent : board.Consistent) (filter : Filter) :
    (board.listed filter).Pairwise Item.Before := by
  -- No two items tie under both keys, as they differ in their numbers.
  have different := different_listed consistent filter
  refine ((ordered_listed board filter).and different).imp fun {a b} both => ?_
  obtain ⟨least, other⟩ := both
  rw [isLE_order_iff] at least
  rw [ne_eq, ← Int64.toInt_inj] at other
  simp only [Item.Before, Int64.lt_iff_toInt_lt, ← Int64.toInt_inj]
  omega

/-- The keys of a listing decide the order of its items, so every engine lists them alike. -/
theorem chosen_eq_listed (consistent : board.Consistent) {filter : Filter} {chosen : List Item}
    (choice : filter.asked.Chosen (board.database plan) board.taskTable
      (fun item => item.task.values) board.items chosen) : chosen = board.listed filter := by
  have asked : ∀ item ∈ board.items, (decide (filter.Admits item)) =
      Expr.admits (board.database plan) [itemFrame item] (Entry.toExpr? filter.entries) := by
    intro item member
    rw [Bool.eq_iff_iff, decide_eq_true_iff]
    exact (Filter.admits_iff consistent (consistent.references item member) filter).symm
  refine Scope.Chosen.unique choice ⟨?_, ordered_listed board filter⟩ ?_
  · exact (board.listed_perm filter).trans (.of_eq (List.filter_congr asked))
  · refine (different_listed consistent filter).imp fun {a b} other same => other ?_
    have tied : Scope.order listingKeys [itemFrame a] [itemFrame b] = .eq := same
    rw [order_itemFrame, Ordering.then_eq_eq, Std.compare_eq_iff_eq, Std.compare_eq_iff_eq] at tied
    exact Int64.toInt_inj.mp tied.2

def shown (board : Board) (filter : Filter) : List Item :=
  limited (filter.limit.map UInt64.toNat) (board.listed filter)

theorem getList_items (consistent : board.Consistent) {filter : Filter}
    (small : ∀ n ∈ filter.limit, n.toNat ≤ Database.largestLimit) :
    (filter.asked.getList (board.database plan).store Task.entity).result =
      .ok ((board.shown filter).map Item.task) := by
  obtain ⟨chosen, choice, answered⟩ :=
    (board.holdsItems plan).result_getList (filter.answerable_asked board) small
  rw [answered, chosen_eq_listed consistent choice]
  rfl

theorem getList_lists (board : Board) :
    ∃ lists, lists.Perm board.lists ∧
      (Query.empty.getList (board.database plan).store TaskList.entity).result = .ok lists := by
  have answerable : Query.empty.Answerable (board.database plan) TaskList.entity
      board.listTable := by
    refine ⟨trivial, ⟨by decide, by decide, by simp [Query.empty, Entry.names], ?_⟩, ?_, ?_, ?_⟩
    · simp [Query.empty]
    · simp [Query.empty, TaskList.entity, listTable, Tasks.listTable, findColumn?, sameName]
    · simp [Query.empty]
    · simp [Query.empty]
  obtain ⟨chosen, choice, answered⟩ :=
    (board.holdsLists plan).result_getList answerable (by simp [Query.empty])
  refine ⟨chosen, choice.perm.trans (.of_eq (List.filter_eq_self.mpr fun _ _ => rfl)), ?_⟩
  rw [answered]
  simp [Query.empty, limited]

theorem listName_lists (consistent : board.Consistent) {lists : List TaskList}
    (perm : lists.Perm board.lists) {list : TaskList} (member : list ∈ board.lists) :
    listName lists list.id = list.name := by
  rw [listName]
  cases found : lists.find? (·.id == list.id) with
  | none => simpa using List.find?_eq_none.mp found list (perm.mem_iff.mpr member)
  | some other =>
      have same : other.id = list.id := by simpa using List.find?_some found
      have stored := perm.mem_iff.mp (List.mem_of_find?_eq_some found)
      rw [consistent.listIds.eq_of_mem stored member same]

theorem lines_lists (consistent : board.Consistent) {lists : List TaskList}
    (perm : lists.Perm board.lists) {items : List Item}
    (stored : ∀ item ∈ items, item ∈ board.items) :
    lines (items.map Item.task) lists =
      "\n".intercalate (items.map fun item => item.task.line item.list.name) := by
  rw [lines, List.map_map]
  refine congrArg _ (List.map_congr_left fun item member => ?_)
  have listed := consistent.references item (stored item member)
  exact congrArg item.task.line (listName_lists consistent perm listed)

theorem mem_of_mem_shown {filter : Filter} {item : Item}
    (member : item ∈ board.shown filter) : item ∈ board.items :=
  ((mem_listed board filter item).mp (mem_of_mem_limited member)).1

def listing (board : Board) (filter : Filter) (asJson : Bool) : String :=
  if asJson then json ((board.shown filter).map Item.task)
  else "\n".intercalate ((board.shown filter).map fun item => item.task.line item.list.name)

theorem runLs_leads (consistent : board.Consistent) {filter : Filter}
    (small : ∀ n ∈ filter.limit, n.toNat ≤ Database.largestLimit) (asJson : Bool) :
    (Command.ls filter asJson).run.Leads (board.database plan) (.ok (board.listing filter asJson))
      (board.database plan) := by
  have tasks : (Action.ask (filter.asked.getList · Task.entity)).Leads (board.database plan) _
    (board.database plan) := .ask _ (getList_items consistent small)
  obtain ⟨lists, perm, answered⟩ := @getList_lists plan board
  have names : (Action.ask (Query.empty.getList · TaskList.entity)).Leads (board.database plan) _
    (board.database plan) := .ask _ answered
  show (Action.ofQuery filter.query >>= _).Leads _ _ _
  rw [filter.query_eq]
  refine Action.Leads.bind (.pure _) (Action.Leads.bind (.report _) (tasks.bind ?_))
  cases asJson with
  | true => exact .pure _
  | false =>
      have named := lines_lists consistent perm fun item => @mem_of_mem_shown board filter item
      rw [listing, if_neg (by simp), ← named]
      exact names.bind (.pure _)

end Board

theorem Board.isSome_foldl {commands : List Command} {start : Option Board}
    (ready : start.isSome ∨ .init ∈ commands) : (commands.foldl Board.next start).isSome := by
  induction commands generalizing start with
  | nil => simpa using ready
  | cons command rest induction =>
      apply induction
      cases start with
      | some board => cases command <;> exact .inl rfl
      | none =>
          obtain rfl | later : command = .init ∨ .init ∈ rest := by simpa [eq_comm] using ready
          · exact .inl rfl
          · exact .inr later

namespace Session

variable {plan : Plan}

theorem board_of_ready {commands : List Command} (ready : .init ∈ commands) {s : Session}
    (fresh : s.database = .empty plan) :
    ∃ board, Board.after commands = some board ∧ board.Consistent ∧
      (s.runAll commands).2.database = board.database plan := by
  obtain ⟨board, reached⟩ := Option.isSome_iff_exists.mp
    (@Board.isSome_foldl commands none (.inr ready))
  have database := (@runAll_steps plan commands none 0 (by simp)
    (fun _ same => by cases same) s fresh).1
  rw [reached] at database
  exact ⟨board, reached, .after reached, database⟩

private def urgent : Filter where
  list := some "Home"
  minPriority := some 1
  search := some "MILK"
  limit := some 1

end Session

end Criteria.Tasks
