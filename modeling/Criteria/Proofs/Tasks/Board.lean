import Mathlib.Algebra.Group.Nat.Defs
import Criteria.Tasks.Command

namespace Criteria.Tasks

/-- A task beside the list that it was added to. -/
structure Item where
  id : Int64
  list : TaskList
  name : String
  content : String
  done : Bool
  priority : Int64
  deriving DecidableEq

def Item.task (item : Item) : Task :=
  ⟨item.id, item.list.id, item.name, item.content, item.done, item.priority⟩

structure Board where
  lists : List TaskList
  items : List Item
  deriving DecidableEq

namespace Board

def empty : Board :=
  ⟨[], []⟩

def lastNumber : Nat :=
  2 ^ 63 - 1

/-- The number behind those that are used, as long as there is one. -/
def number? (used : Nat) : Option Int64 :=
  if used < lastNumber then some (.ofNat (used + 1)) else none

def list? (board : Board) (name : String) : Option TaskList :=
  board.lists.find? (·.name = name)

def addList (board : Board) (list : TaskList) : Board :=
  { board with lists := board.lists ++ [list] }

def addItem (board : Board) (item : Item) : Board :=
  { board with items := board.items ++ [item] }

def setDone (board : Board) (id : Int64) : Board :=
  { board with
    items := board.items.map fun item => if item.id = id then { item with done := true } else item }

/-- The board with a list of the name, which is new unless there is one. -/
def ensure (board : Board) (name : String) : Option (TaskList × Board) :=
  match board.list? name with
  | some list => some (list, board)
  | none => (number? board.lists.length).map fun id => (⟨id, name⟩, board.addList ⟨id, name⟩)

/-- A list that was new stays even where no number is left for the item. -/
def add (board : Board) (name list : String) (priority : Int64) (content : String) : Board :=
  match board.ensure list with
  | some (list, board) =>
      match number? board.items.length with
      | some id => board.addItem ⟨id, list, name, content, false, priority⟩
      | none => board
  | none => board

/-- The board after a command; there is none until the first `init`. -/
def next : Option Board → Command → Option Board
  | none, .init => some empty
  | none, _ => none
  | some board, .add name list priority content => some (board.add name list priority content)
  | some board, .done id => some (board.setDone id)
  | some board, _ => some board

def after (commands : List Command) : Option Board :=
  commands.foldl next none

/-- The numbers from one on, each in its place. -/
def Numbered (ids : List Int64) : Prop :=
  ∀ (index : Nat) (inside : index < ids.length), ids[index].toInt = index + 1

theorem number?_eq_some {used : Nat} {id : Int64} :
    number? used = some id ↔ used < lastNumber ∧ id = .ofNat (used + 1) := by
  simp [number?, eq_comm]

theorem toInt_number {used : Nat} {id : Int64} (number : number? used = some id) :
    id.toInt = used + 1 := by
  obtain ⟨free, rfl⟩ := number?_eq_some.mp number
  rw [lastNumber] at free
  rw [Int64.toInt_ofNat_of_lt (by omega)]
  rfl

namespace Numbered

variable {ids : List Int64}

theorem append (numbered : Numbered ids) {id : Int64} (number : number? ids.length = some id) :
    Numbered (ids ++ [id]) := by
  intro index inside
  rw [List.length_append, List.length_singleton] at inside
  rw [List.getElem_append]
  split
  · exact numbered index _
  · have last : index = ids.length := by omega
    subst last
    simpa using toInt_number number

theorem mem_bounds (numbered : Numbered ids) {id : Int64} (member : id ∈ ids) :
    0 < id.toInt ∧ id.toInt ≤ ids.length := by
  obtain ⟨index, inside, rfl⟩ := List.getElem_of_mem member
  rw [numbered index inside]
  omega

theorem length_le (numbered : Numbered ids) : ids.length ≤ lastNumber := by
  cases ids with
  | nil => simp
  | cons id rest =>
      have inside : rest.length < (id :: rest).length := by simp
      have last := numbered rest.length inside
      have small := ((id :: rest)[rest.length]).toInt_lt
      rw [last] at small
      rw [lastNumber, List.length_cons]
      omega

theorem eq_of_mem {α : Type} {number : α → Int64} {items : List α}
    (numbered : Numbered (items.map number)) {a b : α} (first : a ∈ items) (second : b ∈ items)
    (same : number a = number b) : a = b := by
  obtain ⟨i, firstInside, rfl⟩ := List.getElem_of_mem first
  obtain ⟨j, secondInside, rfl⟩ := List.getElem_of_mem second
  have left := numbered i (by simpa using firstInside)
  have right := numbered j (by simpa using secondInside)
  rw [List.getElem_map] at left right
  have places : i = j := by
    rw [same, right] at left
    omega
  simp [places]

theorem nodup (numbered : Numbered ids) : ids.Nodup := by
  rw [List.Nodup, List.pairwise_iff_getElem]
  intro first second firstInside secondInside before same
  have equal := numbered first firstInside
  rw [same, numbered second secondInside] at equal
  omega

end Numbered

/-- List names are unique, lists and items are numbered from one on, and the list of an item is one
of the lists. -/
structure Consistent (board : Board) : Prop where
  names : (board.lists.map TaskList.name).Nodup
  listIds : Numbered (board.lists.map TaskList.id)
  itemIds : Numbered (board.items.map Item.id)
  references : ∀ item ∈ board.items, item.list ∈ board.lists

theorem list?_eq_some {board : Board} {name : String} {list : TaskList}
    (found : board.list? name = some list) : list ∈ board.lists ∧ list.name = name :=
  ⟨List.mem_of_find?_eq_some found, by simpa using List.find?_some found⟩

theorem list?_eq_none {board : Board} {name : String} :
    board.list? name = none ↔ ∀ list ∈ board.lists, list.name ≠ name := by
  simp [list?]

namespace Consistent

variable {board : Board}

theorem empty : Consistent .empty where
  names := by simp [Board.empty]
  listIds := fun _ inside => by simp [Board.empty] at inside
  itemIds := fun _ inside => by simp [Board.empty] at inside
  references := by simp [Board.empty]

theorem addList (consistent : board.Consistent) {name : String} {id : Int64}
    (absent : board.list? name = none) (number : number? board.lists.length = some id) :
    (board.addList ⟨id, name⟩).Consistent where
  names := by
    have different := list?_eq_none.mp absent
    simp only [Board.addList, List.map_append, List.map_cons, List.map_nil, List.nodup_append]
    refine ⟨consistent.names, by simp, ?_⟩
    simpa using different
  listIds := by
    simpa [Board.addList] using @Numbered.append _ consistent.listIds id (by simpa using number)
  itemIds := consistent.itemIds
  references item member := by
    simp [Board.addList, consistent.references item member]

theorem addItem (consistent : board.Consistent) {item : Item} (listed : item.list ∈ board.lists)
    (number : number? board.items.length = some item.id) : (board.addItem item).Consistent where
  names := consistent.names
  listIds := consistent.listIds
  itemIds := by
    simpa [Board.addItem] using consistent.itemIds.append (by simpa using number)
  references other member := by
    obtain among | rfl : other ∈ board.items ∨ other = item := by
      simpa [Board.addItem] using member
    · exact consistent.references other among
    · exact listed

theorem setDone (consistent : board.Consistent) (id : Int64) : (board.setDone id).Consistent where
  names := consistent.names
  listIds := consistent.listIds
  itemIds := by
    have same : (board.setDone id).items.map Item.id = board.items.map Item.id := by
      simp only [Board.setDone, List.map_map]
      apply List.map_congr_left
      intro item _
      simp only [Function.comp]
      split <;> rfl
    rw [same]
    exact consistent.itemIds
  references item member := by
    obtain ⟨before, among, rfl⟩ := List.mem_map.mp member
    have listed := consistent.references before among
    split <;> exact listed

theorem ensure (consistent : board.Consistent) {name : String} {list : TaskList} {after : Board}
    (ensured : board.ensure name = some (list, after)) :
    after.Consistent ∧ list ∈ after.lists ∧ list.name = name ∧ after.items = board.items := by
  unfold Board.ensure at ensured
  cases found : board.list? name with
  | some known =>
      rw [found] at ensured
      cases ensured
      obtain ⟨member, named⟩ := list?_eq_some found
      exact ⟨consistent, member, named, rfl⟩
  | none =>
      rw [found] at ensured
      obtain ⟨id, number, made⟩ := Option.map_eq_some_iff.mp ensured
      cases made
      exact ⟨consistent.addList found number, by simp [Board.addList], rfl, rfl⟩

theorem add (consistent : board.Consistent) (name list : String) (priority : Int64)
    (content : String) : (board.add name list priority content).Consistent := by
  unfold Board.add
  cases ensured : board.ensure list with
  | none => exact consistent
  | some pair =>
      obtain ⟨list, after⟩ := pair
      obtain ⟨kept, member, named, same⟩ := consistent.ensure ensured
      cases number : number? after.items.length with
      | none => simpa [number] using kept
      | some id => simpa [number] using kept.addItem member number

theorem next (consistent : board.Consistent) {command : Command} {after : Board}
    (stepped : Board.next (some board) command = some after) : after.Consistent := by
  cases command with
  | init =>
      cases stepped
      exact consistent
  | add name list priority content =>
      cases stepped
      exact consistent.add name list priority content
  | done id =>
      cases stepped
      exact consistent.setDone id
  | ls filter asJson =>
      cases stepped
      exact consistent

theorem foldl {start : Option Board} (consistent : ∀ board ∈ start, board.Consistent)
    (commands : List Command) :
    ∀ board ∈ commands.foldl Board.next start, board.Consistent := by
  induction commands generalizing start with
  | nil => exact consistent
  | cons command rest induction =>
      apply induction
      intro board stepped
      cases start with
      | some before => exact (consistent before rfl).next stepped
      | none =>
          cases command with
          | init =>
              cases stepped
              exact .empty
          | _ => cases stepped

theorem after {commands : List Command} {board : Board}
    (reached : Board.after commands = some board) : board.Consistent :=
  foldl (by simp) commands board reached

end Consistent

end Board

end Criteria.Tasks
