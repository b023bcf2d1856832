import Criteria.Proofs.Sql.Patterns
import Criteria.Proofs.Tasks.Listings

namespace Criteria.Tasks

open Criteria.Sql

/-- One text stands in the other, letters of ASCII in either case. -/
def Contains (held text : String) : Prop :=
  text.toList.map Char.toLower <:+: held.toList.map Char.toLower

instance : DecidableRel Contains :=
  fun _ text => inferInstanceAs (Decidable (text.toList.map Char.toLower <:+: _))

namespace Item

def texts (item : Item) : List String :=
  [item.name, item.content]

theorem exists_texts {item : Item} {p : String → Prop} :
    (∃ held ∈ item.texts, p held) ↔ p item.name ∨ p item.content := by
  simp [texts]

def Mentions (item : Item) (text : String) : Prop :=
  ∃ held ∈ item.texts, Contains held text

instance : DecidableRel Mentions :=
  fun item text => inferInstanceAs (Decidable (∃ held ∈ item.texts, Contains held text))

end Item

variable {item : Item} {held text : String} {plan : Plan}

theorem within_of_contains (whole : '\x00' ∉ held.toList) (contains : Contains held text) :
    Like.Within text held := by
  refine Like.within_of_infix ?_
  rw [Like.readable_of_not_mem whole]
  exact contains

theorem contains_of_within (literal : ∀ c ∈ text.toList, Like.Literal c)
    (within : Like.Within text held) : Contains held text := by
  have before : Like.readable held <+: held.toList := List.takeWhile_prefix _
  exact (Like.infix_of_within literal within).trans (before.map Char.toLower).isInfix

namespace Filter

def searching (text : String) : Filter :=
  { all := true, search := some text }

theorem admits_searching_iff :
    (searching text).Admits item ↔
      ∃ held ∈ item.texts,
        Like.holds (pattern text).toUTF8.data.toList held.toUTF8.data.toList = true := by
  rw [Item.exists_texts]
  constructor
  · exact fun admits => admits.search text rfl
  · intro found
    refine ⟨.inl rfl, by simp [searching], by simp [searching], fun other same => ?_⟩
    obtain rfl : text = other := by simpa [searching] using same
    exact found

theorem admits_of_contains (whole : '\x00' ∉ text.toList) (among : held ∈ item.texts)
    (read : '\x00' ∉ held.toList) (contains : Contains held text) :
    (searching text).Admits item :=
  admits_searching_iff.mpr
    ⟨held, among, Like.holds_of_within whole (within_of_contains read contains)⟩

theorem mentions_of_admits (whole : '\x00' ∉ text.toList)
    (literal : ∀ c ∈ text.toList, Like.Literal c) (admits : (searching text).Admits item) :
    item.Mentions text := by
  obtain ⟨held, among, found⟩ := admits_searching_iff.mp admits
  have within := Like.within_of_holds whole
    (fun c member => ⟨(literal c member).1, (literal c member).2.1⟩) found
  exact ⟨held, among, contains_of_within literal within⟩

end Filter

theorem Board.runLs_searching_leads {board : Board} (consistent : board.Consistent)
    (text : String) (asJson : Bool) :
    (Command.ls (.searching text) asJson).run.Leads (board.database plan)
      (.ok (board.listing (.searching text) asJson)) (board.database plan) :=
  Board.runLs_leads consistent (fun _ none => by cases none) asJson

namespace Session

/-- A search for a text without NUL misses no task whose name or content has the text in it, letters
of ASCII in either case, where that name or content has no NUL either. It finds no other, unless a
character of the text is read as others too: a percent sign, a low line, or one of the three that
are read as the replacement character. The engine's bound on the length of a pattern is left out. -/
theorem search_answers {commands : List Command} (ready : .init ∈ commands) {text : String}
    (whole : '\x00' ∉ text.toList) (s : Session) (fresh : s.database = .empty plan) :
    ∃ (board : Board) (found : List Item),
      Board.after commands = some board ∧ (s.runAll commands).2.database = board.database plan ∧
      (∀ item ∈ found, item ∈ board.items) ∧
      (∀ item ∈ board.items, ∀ held ∈ item.texts, '\x00' ∉ held.toList → Contains held text →
        item ∈ found) ∧
      ((∀ c ∈ text.toList, Like.Literal c) → ∀ item ∈ found, item.Mentions text) ∧
      found.Pairwise Item.Before ∧
      ((s.runAll commands).2.perform (.ls (.searching text) true)).1 =
        .ok (json (found.map Item.task)) ∧
      ((s.runAll commands).2.perform (.ls (.searching text) false)).1 =
        .ok ("\n".intercalate (found.map fun item => item.task.line item.list.name)) := by
  obtain ⟨board, reached, consistent, database⟩ := board_of_ready ready fresh
  have listed (item : Item) := board.mem_listed (.searching text) item
  have answers (asJson : Bool) :=
    (perform_of_leads (Board.runLs_searching_leads consistent text asJson) database).1
  exact ⟨board, board.listed (.searching text), reached, database,
    fun item member => ((listed item).mp member).1,
    fun item member held among read contains =>
      (listed item).mpr ⟨member, Filter.admits_of_contains whole among read contains⟩,
    fun literal item member => Filter.mentions_of_admits whole literal ((listed item).mp member).2,
    board.pairwise_listed consistent _, answers true, answers false⟩

theorem search_answers_chores :
    Command.init ∈ chores ∧ '\x00' ∉ "ILK".toList ∧ inMemory.database = .empty ∧
      (∀ c ∈ "ILK".toList, Like.Literal c) ∧
      ∃ (board : Board) (found : List Item),
        Board.after chores = some board ∧
        (inMemory.runAll chores).2.database = board.database .indexed ∧
        (∀ item ∈ found, item ∈ board.items ∧ item.Mentions "ILK") ∧
        (∀ item ∈ board.items, (∀ held ∈ item.texts, '\x00' ∉ held.toList) →
          item.Mentions "ILK" → item ∈ found) ∧
        ((inMemory.runAll chores).2.perform (.ls (.searching "ILK") true)).1 =
          .ok (json (found.map Item.task)) := by
  have ready : Command.init ∈ chores := by decide
  have whole : '\x00' ∉ "ILK".toList := by decide
  have literal : ∀ c ∈ "ILK".toList, Like.Literal c := by simp [Like.Literal]
  obtain ⟨board, found, reached, database, stored, misses, finds, _, answer, _⟩ :=
    search_answers ready whole inMemory rfl
  refine ⟨ready, whole, rfl, literal, board, found, reached, database,
    fun item member => ⟨stored item member, finds literal item member⟩, ?_, answer⟩
  rintro item member read ⟨held, among, contains⟩
  exact misses item member held among (read held among) contains

private def errands : List Command :=
  [.init, .add "milk" "Home" 0 ""]

private def milk : Item :=
  ⟨1, ⟨1, "Home"⟩, "milk", "", false, 0⟩

/-- A percent sign is found in a name that has none. -/
theorem search_finds_unmentioned :
    Command.init ∈ errands ∧ inMemory.database = .empty ∧
      Board.after errands = some ⟨[⟨1, "Home"⟩], [milk]⟩ ∧ ¬ milk.Mentions "m%k" ∧
      ((inMemory.runAll errands).2.perform (.ls (.searching "m%k") false)).1 =
        .ok "   1 [ ] milk @Home" := by
  have ready : Command.init ∈ errands := by decide
  have reached : Board.after errands = some ⟨[⟨1, "Home"⟩], [milk]⟩ := by decide
  obtain ⟨board, same, consistent, database⟩ := board_of_ready ready (rfl : inMemory.database = _)
  obtain rfl : ⟨[⟨1, "Home"⟩], [milk]⟩ = board := Option.some.inj (reached.symm.trans same)
  have named : (Filter.searching "m%k").Admits milk := Filter.admits_searching_iff.mpr
    ⟨"milk", by decide, (Like.holds_between (by decide)).mpr ⟨_, List.infix_refl _, by decide⟩⟩
  have answer :=
    (perform_of_leads (Board.runLs_searching_leads consistent "m%k" false) database).1
  refine ⟨ready, rfl, reached, by decide, answer.trans ?_⟩
  rw [Board.listing, Board.shown, Board.listed_singleton named]
  rfl

end Session

end Criteria.Tasks
