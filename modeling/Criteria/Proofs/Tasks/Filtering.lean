import Criteria.Proofs.Tasks.Lookup
import Criteria.Tasks.Filter

namespace Criteria.Tasks

open Criteria.Sql

namespace Filter

def openEntry : Entry :=
  ⟨.and, .condition ⟨"done", .plain .eq, .scalar (.bool false)⟩⟩

def listIds (name : String) : Query :=
  ⟨[⟨.and, .condition ⟨"name", .plain .eq, .scalar (.text name)⟩⟩], some "_id", [], none⟩

def listEntry (name : String) : Entry :=
  ⟨.and, .condition ⟨"list_id", .plain .member, .subquery "lists" (listIds name)⟩⟩

def priorityEntry (least : Int64) : Entry :=
  ⟨.and, .condition ⟨"priority", .plain .ge, .scalar (.int least)⟩⟩

def pattern (text : String) : String :=
  "%" ++ text ++ "%"

def searchEntry (text : String) : Entry :=
  ⟨.and, .group [⟨.and, .condition ⟨"name", .plain .like, .scalar (.text (pattern text))⟩⟩,
    ⟨.or, .condition ⟨"content", .plain .like, .scalar (.text (pattern text))⟩⟩]⟩

def entries (filter : Filter) : List Entry :=
  (if filter.all then [] else [openEntry]) ++ (filter.list.map listEntry).toList ++
    (filter.minPriority.map priorityEntry).toList ++ (filter.search.map searchEntry).toList

def asked (filter : Filter) : Query :=
  ⟨filter.entries, none, [.desc "priority", .asc "_id"], filter.limit⟩

/-- No setting of a filter is refused. -/
theorem query_eq (filter : Filter) : filter.query = .ok filter.asked := by
  obtain ⟨list, all, minPriority, search, limit⟩ := filter
  cases list <;> cases all <;> cases minPriority <;> cases search <;> cases limit <;> rfl

theorem entry_cases {filter : Filter} {entry : Entry} (member : entry ∈ filter.entries) :
    entry = openEntry ∨ (∃ name, entry = listEntry name) ∨
      (∃ least, entry = priorityEntry least) ∨ ∃ text, entry = searchEntry text := by
  simp only [entries, List.mem_append, Option.mem_toList, Option.map_eq_some_iff] at member
  rcases member with ((opened | ⟨name, _, rfl⟩) | ⟨least, _, rfl⟩) | ⟨text, _, rfl⟩
  · split at opened
    · cases opened
    · exact .inl (List.mem_singleton.mp opened)
  · exact .inr (.inl ⟨name, rfl⟩)
  · exact .inr (.inr (.inl ⟨least, rfl⟩))
  · exact .inr (.inr (.inr ⟨text, rfl⟩))

variable (db : Database) (item : Item) (outer : Scope)

theorem truth_openEntry :
    openEntry.node.toExpr.truth db (Board.itemFrame item :: outer) = .ofBool (!item.done) := by
  obtain ⟨_, _, affinity, _⟩ := Board.affinity_itemFrame item outer
  obtain ⟨_, _, _, _, value, _⟩ := Board.value_itemFrame item outer
  have compared := Scope.compare_integer .eq affinity value 0
  rw [Datum.related_eq_integer] at compared
  apply compared.trans
  cases item.done <;> rfl

theorem truth_priorityEntry (least : Int64) :
    (priorityEntry least).node.toExpr.truth db (Board.itemFrame item :: outer) =
      .ofBool (least ≤ item.priority) := by
  obtain ⟨_, _, _, affinity⟩ := Board.affinity_itemFrame item outer
  obtain ⟨_, _, _, _, _, value⟩ := Board.value_itemFrame item outer
  have compared := Scope.compare_integer .ge affinity value least
  rw [Datum.related_ge_integer] at compared
  exact compared

theorem truth_searchEntry (text : String) :
    (searchEntry text).node.toExpr.truth db (Board.itemFrame item :: outer) =
      .ofBool (Like.holds (pattern text).toUTF8.data.toList item.name.toUTF8.data.toList ||
        Like.holds (pattern text).toUTF8.data.toList item.content.toUTF8.data.toList) := by
  obtain ⟨_, _, name, content, _, _⟩ := Board.value_itemFrame item outer
  have named := Scope.like_text name (pattern text)
  have held := Scope.like_text content (pattern text)
  rw [← Truth.or_ofBool, ← named, ← held]
  rfl

variable {item} {plan : Plan}

theorem rows_listIds (board : Board) (name : String) :
    (Select.rows (board.database plan) outer ((listIds name).toSelect "lists")).Perm
      ((board.lists.filter (·.name = name)).map fun list => [.integer list.id]) := by
  have named (list : TaskList) : Expr.admits (board.database plan) (Board.listFrame list :: outer)
      (Entry.toExpr? (listIds name).entries) = decide (list.name = name) :=
    Board.admits_equalTo _ (Scope.compare_text (Board.affinity_listFrame list outer)
      (Board.value_listFrame list outer).2 name)
  have projected (list : TaskList) :
      Scope.project (Board.listFrame list :: outer) ["_id"] = [.integer list.id] := by
    simp [Scope.project, (Board.value_listFrame list outer).1]
  obtain ⟨chosen, choice, rows⟩ := @Select.exists_chosen _ (board.database plan) outer
    board.listTable TaskList.values board.lists "lists" ["_id"]
    (Entry.toExpr? (listIds name).entries) [] none (board.table?_lists plan) rfl
  have among : chosen.Perm (board.lists.filter (·.name = name)) :=
    choice.perm.trans (.of_eq (congrArg (fun p => board.lists.filter p) (funext named)))
  refine (List.Perm.of_eq rows).trans ((among.map _).trans (.of_eq ?_))
  exact List.map_congr_left fun list _ => projected list

theorem truth_listEntry {board : Board} (consistent : board.Consistent)
    (listed : item.list ∈ board.lists) (name : String) :
    (listEntry name).node.toExpr.truth (board.database plan) (Board.itemFrame item :: outer) =
      .ofBool (item.list.name = name) := by
  obtain ⟨_, affinity, _, _⟩ := Board.affinity_itemFrame item outer
  obtain ⟨_, value, _, _, _, _⟩ := Board.value_itemFrame item outer
  have ids : ((listIds name).toSelect "lists").affinity (board.database plan)
      ((Board.itemFrame item :: outer).map Frame.columns) = .integer := by
    simp [Select.affinity, listIds, Query.toSelect, board.table?_lists plan, Board.listTable,
      Tasks.listTable, findColumn?, sameName]
  have found : ((board.lists.filter (·.name = name)).any fun list =>
      decide (item.list.id = list.id)) = decide (item.list.name = name) := by
    rw [Bool.eq_iff_iff, decide_eq_true_iff, List.any_eq_true]
    constructor
    · rintro ⟨list, member, same⟩
      obtain ⟨among, named⟩ := List.mem_filter.mp member
      have equal := consistent.listIds.eq_of_mem listed among (by simpa using same)
      rw [equal]
      simpa using named
    · intro named
      exact ⟨item.list, List.mem_filter.mpr ⟨listed, by simpa using named⟩, by simp⟩
  have compared (list : TaskList) :
      Datum.related .eq (.integer item.list.id) (.integer list.id) =
        .ofBool (decide (item.list.id = list.id)) := Datum.related_eq_integer _ _
  show Scope.inColumn _ "list_id" _ ((Select.rows _ _ _).map _) = _
  rw [Scope.inColumn_perm _ _ _ ((rows_listIds _ board name).map _), ids, Scope.inColumn, affinity,
    value, ← found, ← Truth.any_ofBool]
  simp only [List.map_map]
  refine congrArg Truth.any (List.map_congr_left fun list _ => compared list)

/-- What a filter asks of an item. -/
structure Admits (filter : Filter) (item : Item) : Prop where
  done : filter.all = true ∨ item.done = false
  list : ∀ name ∈ filter.list, item.list.name = name
  priority : ∀ least ∈ filter.minPriority, least ≤ item.priority
  search : ∀ text ∈ filter.search,
    Like.holds (pattern text).toUTF8.data.toList item.name.toUTF8.data.toList = true ∨
      Like.holds (pattern text).toUTF8.data.toList item.content.toUTF8.data.toList = true

theorem admits_iff_and (filter : Filter) (item : Item) :
    filter.Admits item ↔ (filter.all = true ∨ item.done = false) ∧
      (∀ name ∈ filter.list, item.list.name = name) ∧
      (∀ least ∈ filter.minPriority, least ≤ item.priority) ∧
      ∀ text ∈ filter.search,
        Like.holds (pattern text).toUTF8.data.toList item.name.toUTF8.data.toList = true ∨
          Like.holds (pattern text).toUTF8.data.toList item.content.toUTF8.data.toList = true :=
  ⟨fun ⟨done, list, priority, search⟩ => ⟨done, list, priority, search⟩,
    fun ⟨done, list, priority, search⟩ => ⟨done, list, priority, search⟩⟩

instance (filter : Filter) : DecidablePred filter.Admits := fun item =>
  letI : Decidable (∀ least ∈ filter.minPriority, least ≤ item.priority) :=
    Option.decidableForallMem filter.minPriority
  decidable_of_iff _ (admits_iff_and filter item).symm

theorem admits_iff {board : Board} (consistent : board.Consistent)
    (listed : item.list ∈ board.lists) (filter : Filter) :
    Expr.admits (board.database plan) [Board.itemFrame item] (Entry.toExpr? filter.entries) = true ↔
      filter.Admits item := by
  have conjunction : ∀ entry ∈ filter.entries, entry.connector = .and := by
    intro entry member
    rcases entry_cases member with rfl | ⟨name, rfl⟩ | ⟨least, rfl⟩ | ⟨text, rfl⟩ <;> rfl
  rw [Entry.admits_toExpr? conjunction]
  have done : (if filter.all then [] else [openEntry]).all (fun entry =>
      entry.node.toExpr.truth (board.database plan) [Board.itemFrame item] = .yes) = true ↔
        filter.all = true ∨ item.done = false := by
    split <;> simp [truth_openEntry, *]
  have list : (filter.list.map listEntry).toList.all (fun entry =>
      entry.node.toExpr.truth (board.database plan) [Board.itemFrame item] = .yes) = true ↔
        ∀ name ∈ filter.list, item.list.name = name := by
    cases filter.list <;> simp [truth_listEntry [] consistent listed]
  have priority : (filter.minPriority.map priorityEntry).toList.all (fun entry =>
      entry.node.toExpr.truth (board.database plan) [Board.itemFrame item] = .yes) = true ↔
        ∀ least ∈ filter.minPriority, least ≤ item.priority := by
    cases filter.minPriority <;> simp [truth_priorityEntry]
  have search : (filter.search.map searchEntry).toList.all (fun entry =>
      entry.node.toExpr.truth (board.database plan) [Board.itemFrame item] = .yes) = true ↔
        ∀ text ∈ filter.search,
          Like.holds (pattern text).toUTF8.data.toList item.name.toUTF8.data.toList = true ∨
            Like.holds (pattern text).toUTF8.data.toList item.content.toUTF8.data.toList =
              true := by
    cases filter.search <;> simp [truth_searchEntry]
  rw [entries, List.all_append, List.all_append, List.all_append, Bool.and_eq_true,
    Bool.and_eq_true, Bool.and_eq_true, done, list, priority, search]
  rw [admits_iff_and, and_assoc, and_assoc]

theorem wellFormed_asked (filter : Filter) : filter.asked.WellFormed := by
  rw [Query.wellFormed_iff, Entry.allWellFormed_iff]
  intro entry member
  rcases entry_cases member with rfl | ⟨name, rfl⟩ | ⟨least, rfl⟩ | ⟨text, rfl⟩
  · exact ⟨rfl, rfl, rfl⟩
  · exact ⟨rfl, rfl, rfl, ⟨rfl, rfl, rfl⟩, trivial⟩
  · exact ⟨rfl, rfl, rfl⟩
  · exact ⟨by simp, ⟨rfl, rfl, rfl⟩, ⟨rfl, rfl, rfl⟩, trivial⟩

theorem plainNames_asked (filter : Filter) :
    filter.asked.PlainNames Task.entity.table Task.entity.columns where
  table := by decide
  columns := by decide
  conditions name member := by
    obtain ⟨entry, among, inside⟩ := Entry.mem_names.mp member
    rcases entry_cases among with rfl | ⟨_, rfl⟩ | ⟨_, rfl⟩ | ⟨_, rfl⟩
    · have plain : ∀ other ∈ ["done"], IsPlainName other := by decide
      exact plain name inside
    · have plain : ∀ other ∈ ["list_id", "lists", "_id", "name"], IsPlainName other := by decide
      exact plain name inside
    · have plain : ∀ other ∈ ["priority"], IsPlainName other := by decide
      exact plain name inside
    · have plain : ∀ other ∈ ["name", "content"], IsPlainName other := by decide
      exact plain name inside
  orderings key member := by
    have plain : ∀ other ∈ [SortKey.desc "priority", SortKey.asc "_id"],
        IsPlainName other.column := by decide
    exact plain key member

theorem check_listEntry (board : Board) (name : String) :
    (listEntry name).node.toExpr.check (board.database plan) [board.taskTable.columns] =
      .ok () := by
  have condition : Expr.checkCondition (board.database plan)
      [board.listTable.columns, board.taskTable.columns]
      (Entry.toExpr? (listIds name).entries) = .ok () := by
    apply Entry.checkCondition_toExpr?
    intro entry member
    rw [List.mem_singleton.mp member]
    rfl
  have inner : ((listIds name).toSelect "lists").check (board.database plan)
      [board.taskTable.columns] = .ok 1 :=
    Select.check_of_found none (board.table?_lists plan) (by
      simp [Board.listTable, Tasks.listTable, findColumn?, sameName]) condition
  show (do
    Reach.check [board.taskTable.columns] "list_id"
    let width ← ((listIds name).toSelect "lists").check (board.database plan)
      [board.taskTable.columns]
    if width = 1 then .ok () else .error (.columnCount 1 width)) = _
  rw [inner]
  rfl

theorem answerable_asked (board : Board) (filter : Filter) :
    filter.asked.Answerable (board.database plan) Task.entity board.taskTable where
  formed := filter.wellFormed_asked
  plain := filter.plainNames_asked
  columns := by
    simp [asked, Task.entity, Board.taskTable, taskTable, findColumn?, sameName, SortKey.asc,
      SortKey.desc]
  conditions entry member := by
    rcases entry_cases member with rfl | ⟨name, rfl⟩ | ⟨least, rfl⟩ | ⟨text, rfl⟩
    · rfl
    · exact check_listEntry board name
    · rfl
    · rfl
  unlimited entry member := by
    rcases entry_cases member with rfl | ⟨name, rfl⟩ | ⟨least, rfl⟩ | ⟨text, rfl⟩ <;> rfl

end Filter

end Criteria.Tasks
