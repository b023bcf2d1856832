import Criteria.Proofs.Binary64.Text
import Criteria.Proofs.Tasks.Listings

namespace Criteria.Tasks

open Criteria.Sql

/-- The pieces of a text between its newlines. -/
def textLines (text : String) : List String :=
  (text.toList.splitOn '\n').map String.ofList

def breaks (text : String) : Nat :=
  text.toList.count '\n'

@[simp] theorem breaks_append (s t : String) : breaks (s ++ t) = breaks s + breaks t := by
  simp [breaks]

theorem length_splitOn (l : List Char) (a : Char) : (l.splitOn a).length = l.count a + 1 := by
  induction l with
  | nil => rfl
  | cons b rest induction =>
      rw [List.splitOn_cons_eq_if_modifyHead, List.count_cons]
      split <;> simp [induction]

theorem length_textLines (text : String) : (textLines text).length = breaks text + 1 := by
  rw [textLines, List.length_map, length_splitOn, breaks]

theorem textLines_of_breaks {text : String} (none : breaks text = 0) : textLines text = [text] := by
  rw [textLines, List.splitOn_eq_singleton (List.count_eq_zero.mp none)]
  simp

theorem splitOn_intercalate_eq_flatMap {parts : List (List Char)} (filled : parts ≠ []) (a : Char) :
    ([a].intercalate parts).splitOn a = parts.flatMap (·.splitOn a) := by
  induction parts with
  | nil => exact absurd rfl filled
  | cons part rest induction =>
      cases rest with
      | nil => simp
      | cons next rest =>
          rw [List.intercalate_cons_cons, List.append_assoc, List.singleton_append,
            List.splitOn_append_cons_self, induction (by simp)]
          rfl

theorem textLines_intercalate {texts : List String} (filled : texts ≠ []) :
    textLines ("\n".intercalate texts) = texts.flatMap textLines := by
  have newline : "\n".toList = ['\n'] := rfl
  rw [textLines, String.toList_intercalate, newline,
    splitOn_intercalate_eq_flatMap (by simpa using filled), List.flatMap_map, List.map_flatMap]
  rfl

theorem breaks_toString (n : Int) : breaks (toString n) = 0 := by
  rw [breaks, List.count_eq_zero]
  intro member
  have numeral := Binary64.isNumeral_of_mem_toString member
  exact absurd numeral (by decide)

theorem breaks_rightAligned (width : Nat) (text : String) :
    breaks (rightAligned width text) = breaks text := by
  simp [breaks, rightAligned, List.count_replicate]

theorem Task.breaks_line (task : Task) (list : String) :
    breaks (task.line list) = breaks task.name + breaks list := by
  have mark : breaks (if task.done then "x" else " ") = 0 := by
    split <;> rfl
  have priority :
      breaks (if task.priority = 0 then "" else " !" ++ toString task.priority.toInt) = 0 := by
    split
    · rfl
    · rw [breaks_append, breaks_toString]
      rfl
  have opening : breaks " [" = 0 := rfl
  have closing : breaks "] " = 0 := rfl
  have sign : breaks " @" = 0 := rfl
  simp only [line, breaks_append, breaks_rightAligned, breaks_toString, mark, priority, opening,
    closing, sign]
  omega

namespace Item

def rendering (item : Item) : String :=
  item.task.line item.list.name

def breaks (item : Item) : Nat :=
  Tasks.breaks item.name + Tasks.breaks item.list.name

def allBreaks : List Item → Nat
  | [] => 0
  | item :: rest => item.breaks + allBreaks rest

theorem length_textLines_rendering (item : Item) :
    (textLines item.rendering).length = item.breaks + 1 := by
  rw [length_textLines, rendering, Task.breaks_line]
  rfl

theorem breaks_eq_zero_iff (item : Item) :
    item.breaks = 0 ↔ '\n' ∉ item.name.toList ∧ '\n' ∉ item.list.name.toList := by
  rw [breaks, Nat.add_eq_zero_iff, Tasks.breaks, Tasks.breaks, List.count_eq_zero,
    List.count_eq_zero]

theorem allBreaks_eq_zero_iff (items : List Item) :
    allBreaks items = 0 ↔ ∀ item ∈ items, item.breaks = 0 := by
  induction items with
  | nil => simp [allBreaks]
  | cons item rest induction =>
      rw [allBreaks, Nat.add_eq_zero_iff, induction, List.forall_mem_cons]

theorem rendering_ne_empty (item : Item) : item.rendering ≠ "" := by
  intro empty
  have none := congrArg String.length empty
  simp [rendering, Task.line] at none

end Item

section

variable {items : List Item}

theorem textLines_renderings (filled : items ≠ []) :
    textLines ("\n".intercalate (items.map Item.rendering)) =
      items.flatMap fun item => textLines item.rendering := by
  rw [textLines_intercalate (by simpa using filled), List.flatMap_map]

theorem intercalate_renderings_eq_empty_iff :
    "\n".intercalate (items.map Item.rendering) = "" ↔ items = [] := by
  refine ⟨fun empty => ?_, fun none => by simp [none]⟩
  cases items with
  | nil => rfl
  | cons item rest =>
      cases rest with
      | nil => exact absurd (by simpa using empty) item.rendering_ne_empty
      | cons next rest =>
          rw [List.map_cons, List.map_cons, String.intercalate_cons_cons] at empty
          have none := congrArg String.length empty
          simp at none

theorem length_textLines_renderings (filled : items ≠ []) :
    (textLines ("\n".intercalate (items.map Item.rendering))).length =
      items.length + Item.allBreaks items := by
  rw [textLines_renderings filled]
  clear filled
  induction items with
  | nil => rfl
  | cons item rest induction =>
      rw [List.flatMap_cons, List.length_append, induction, item.length_textLines_rendering,
        List.length_cons, Item.allBreaks]
      omega

/-- One line for each item is as much as no newline in any of the names that are shown. -/
theorem textLines_renderings_eq_iff (filled : items ≠ []) :
    textLines ("\n".intercalate (items.map Item.rendering)) = items.map Item.rendering ↔
      ∀ item ∈ items, '\n' ∉ item.name.toList ∧ '\n' ∉ item.list.name.toList := by
  constructor
  · intro same item member
    have lengths := length_textLines_renderings filled
    rw [same, List.length_map] at lengths
    have none : Item.allBreaks items = 0 := by omega
    exact item.breaks_eq_zero_iff.mp ((Item.allBreaks_eq_zero_iff items).mp none item member)
  · intro unbroken
    rw [textLines_renderings filled]
    have single : ∀ item ∈ items, textLines item.rendering = [item.rendering] := by
      intro item member
      apply textLines_of_breaks
      rw [Item.rendering, Task.breaks_line]
      exact item.breaks_eq_zero_iff.mpr (unbroken item member)
    rw [List.map_eq_flatMap, List.flatMap_def, List.map_congr_left single, List.flatMap_def]

end

namespace Board

variable {filter : Filter} {plan : Plan} {n : UInt64}

def unreadable : QueryError :=
  .storageUnavailable ⟨"failed to read row on 'tasks'", some "datatype mismatch"⟩

theorem getList_items_beyond (board : Board) (limit : filter.limit = some n)
    (large : Database.largestLimit < n.toNat) :
    (filter.asked.getList (board.database plan).store Task.entity).result = .error unreadable := by
  have answerable := @Filter.answerable_asked plan board filter
  obtain ⟨tokens, lexed, counted, prepared⟩ := Database.prepare_request answerable.formed
    answerable.plain (board.holdsItems plan).found
    ((board.holdsItems plan).check_selection answerable filter.asked.limit)
  have answered := Database.answer_of_prepare lexed counted prepared
  have limits : (filter.asked.selection Task.entity.table Task.entity.columns
      filter.asked.limit).limits.any (Database.largestLimit < ·) = true := by
    rw [Query.selection, Select.limits, List.any_append]
    simp [Filter.asked, limit, large]
  rw [if_pos limits] at answered
  have refused := @Database.store_of_answer_error (board.database plan)
    (filter.asked.request Task.entity.table Task.entity.columns filter.asked.limit) _ _ answered
  exact ((filter.asked.asks_getList (board.database plan).store Task.entity).failed _ refused).1

theorem runLs_leads_beyond (board : Board) (limit : filter.limit = some n)
    (large : Database.largestLimit < n.toNat) (asJson : Bool) :
    (Command.ls filter asJson).run.Leads (board.database plan) (.error (.query unreadable))
      (board.database plan) := by
  have failed : (Action.ask (filter.asked.getList · Task.entity)).Leads (board.database plan)
      (.error (.query unreadable)) (board.database plan) :=
    .ask_error _ (board.getList_items_beyond limit large)
  show (Action.ofQuery filter.query >>= _).Leads _ _ _
  rw [filter.query_eq]
  exact Action.Leads.bind (.pure _) (Action.Leads.bind (.report _) failed.bind_error)

end Board

namespace Session

variable {plan : Plan}

/-- A listing without items is the empty text. Any other falls apart into the lines of its items one
after the other: one for each item, and one more for each newline in its name or in that of its
list. Where the limit is too large to be read, neither form is answered. -/
theorem ls_lines {commands : List Command} (ready : .init ∈ commands) (filter : Filter)
    (s : Session) (fresh : s.database = .empty plan) :
    ∃ board, Board.after commands = some board ∧
      (s.runAll commands).2.database = board.database plan ∧
      ((∀ n ∈ filter.limit, n.toNat ≤ Database.largestLimit) →
        ∃ (shown : List Item) (text : String),
          ((s.runAll commands).2.perform (.ls filter true)).1 = .ok (json (shown.map Item.task)) ∧
          ((s.runAll commands).2.perform (.ls filter false)).1 = .ok text ∧
          (text = "" ↔ shown = []) ∧
          (shown ≠ [] →
            textLines text = shown.flatMap (fun item => textLines item.rendering) ∧
            (textLines text).length = shown.length + Item.allBreaks shown ∧
            (textLines text = shown.map Item.rendering ↔
              ∀ item ∈ shown, '\n' ∉ item.name.toList ∧ '\n' ∉ item.list.name.toList))) ∧
      ∀ n ∈ filter.limit, Database.largestLimit < n.toNat → ∀ asJson,
        ((s.runAll commands).2.perform (.ls filter asJson)).1 =
          .error (.query Board.unreadable) := by
  obtain ⟨board, reached, consistent, database⟩ := board_of_ready ready fresh
  refine ⟨board, reached, database, fun small => ?_, fun n limit large asJson => ?_⟩
  · have answers (asJson : Bool) :=
      (perform_of_leads (Board.runLs_leads consistent small asJson) database).1
    exact ⟨board.shown filter, "\n".intercalate ((board.shown filter).map Item.rendering),
      answers true, answers false, intercalate_renderings_eq_empty_iff, fun filled =>
        ⟨textLines_renderings filled, length_textLines_renderings filled,
          textLines_renderings_eq_iff filled⟩⟩
  · exact (perform_of_leads (board.runLs_leads_beyond limit large asJson) database).1

theorem ls_lines_chores :
    Command.init ∈ chores ∧ inMemory.database = .empty ∧
      ∃ board, Board.after chores = some board ∧
        (inMemory.runAll chores).2.database = board.database .indexed ∧
        ∃ (shown : List Item) (text : String),
          ((inMemory.runAll chores).2.perform (.ls {} true)).1 =
            .ok (json (shown.map Item.task)) ∧
          ((inMemory.runAll chores).2.perform (.ls {} false)).1 = .ok text ∧
          (text = "" ↔ shown = []) ∧
          (shown ≠ [] →
            textLines text = shown.flatMap (fun item => textLines item.rendering) ∧
            (textLines text).length = shown.length + Item.allBreaks shown ∧
            (textLines text = shown.map Item.rendering ↔
              ∀ item ∈ shown, '\n' ∉ item.name.toList ∧ '\n' ∉ item.list.name.toList)) := by
  have ready : Command.init ∈ chores := by decide
  obtain ⟨board, reached, database, answers, _⟩ := ls_lines ready {} inMemory rfl
  exact ⟨ready, rfl, board, reached, database, answers (by simp)⟩

private def split : List Command :=
  [.init, .add "milk\nbread" "Home" 0 ""]

private def milkAndBread : Item :=
  ⟨1, ⟨1, "Home"⟩, "milk\nbread", "", false, 0⟩

/-- A name with a newline is taken, and the one task that has it is shown on two lines. -/
theorem ls_lines_split :
    Command.init ∈ split ∧ inMemory.database = .empty ∧
      ((inMemory.runAll split).2.perform (.ls {} true)).1 = .ok (json [milkAndBread.task]) ∧
      ((inMemory.runAll split).2.perform (.ls {} false)).1 = .ok "   1 [ ] milk\nbread @Home" ∧
      textLines "   1 [ ] milk\nbread @Home" = ["   1 [ ] milk", "bread @Home"] := by
  have ready : Command.init ∈ split := by decide
  have reached : Board.after split = some ⟨[⟨1, "Home"⟩], [milkAndBread]⟩ := by decide
  obtain ⟨board, same, consistent, database⟩ := board_of_ready ready (rfl : inMemory.database = _)
  obtain rfl : ⟨[⟨1, "Home"⟩], [milkAndBread]⟩ = board := Option.some.inj (reached.symm.trans same)
  have admits : Filter.Admits {} milkAndBread :=
    ⟨.inr rfl, by simp, by simp, by simp⟩
  have unlimited : ∀ n ∈ Filter.limit {}, n.toNat ≤ Database.largestLimit := by simp
  have answers (asJson : Bool) :=
    (perform_of_leads (Board.runLs_leads consistent unlimited asJson) database).1
  refine ⟨ready, rfl, (answers true).trans ?_, (answers false).trans ?_, by decide⟩
  · rw [Board.listing, Board.shown, Board.listed_singleton admits]
    rfl
  · rw [Board.listing, Board.shown, Board.listed_singleton admits]
    rfl

end Session

end Criteria.Tasks
