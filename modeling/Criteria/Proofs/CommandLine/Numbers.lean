import Criteria.Proofs.CommandLine.Choices

namespace Criteria.CommandLine

theorem head?_toString_of_nonneg {n : Int64} (above : 0 ≤ n) :
    (toString n.toInt).toList.head? ≠ some '-' := by
  have sign : ¬ n.toInt < 0 := Int.not_lt.mpr (Int64.le_iff_toInt_le.mp above)
  obtain ⟨c, rest, written, digit⟩ := exists_toDigits n.toInt.natAbs
  rw [Sql.Numeral.toList_toString, if_neg sign, List.nil_append, written]
  rintro ⟨⟩
  exact absurd digit (by decide)

theorem toList_toString_of_neg {n : Int64} (below : ¬ 0 ≤ n) :
    ∃ c rest, (toString n.toInt).toList = '-' :: c :: rest ∧ c.isDigit = true := by
  have sign : n.toInt < 0 := Int.not_le.mp fun above => below (Int64.le_iff_toInt_le.mpr above)
  obtain ⟨c, rest, written, digit⟩ := exists_toDigits n.toInt.natAbs
  exact ⟨c, rest, by rw [Sql.Numeral.toList_toString, if_pos sign, written]; rfl, digit⟩

/-- A command with a signed number. The task looks like no option. -/
inductive NumberPlace
  | priority (task : String) (plain : task.toList.head? ≠ some '-')
  | minPriority
  | id

namespace NumberPlace

def command (n : Int64) : NumberPlace → Tasks.Command
  | priority task _ => .add task "Inbox" n ""
  | minPriority => .ls { minPriority := some n } false
  | id => .done n

/-- The number is an argument of its own. -/
def apart (n : Int64) : NumberPlace → List String
  | priority task _ => ["add", task, "--priority", toString n.toInt]
  | minPriority => ["ls", "--min-priority", toString n.toInt]
  | id => ["done", toString n.toInt]

/-- The number cannot be taken for an option. -/
def attached (n : Int64) : NumberPlace → List String
  | priority task _ => ["add", task, "--priority=" ++ toString n.toInt]
  | minPriority => ["ls", "--min-priority=" ++ toString n.toInt]
  | id => ["done", "--", toString n.toInt]

def level : NumberPlace → Level
  | priority .. => .add
  | minPriority => .ls
  | id => .done

def slot : NumberPlace → Slot
  | priority .. => .priority
  | minPriority => .minPriority
  | id => .id

def given : NumberPlace → List (Slot × Setting)
  | priority task _ => [(.name, .text task)]
  | minPriority | id => []

/-- A positional has been met when the level ends. -/
def met : NumberPlace → Bool
  | priority .. | id => true
  | minPriority => false

/-- The reading that the number completes. -/
def waiting : NumberPlace → Reading
  | priority task _ => ⟨[(.name, .text task)], some ⟨.priority, none⟩, true⟩
  | minPriority => ⟨[], some ⟨.minPriority, none⟩, false⟩
  | id => {}

def words : NumberPlace → List String
  | priority task _ => [task, "--priority"]
  | minPriority => ["--min-priority"]
  | id => []

variable (place : NumberPlace) {n : Int64}

theorem settle_task (task : String) :
    Reading.settle ⟨[], some ⟨.name, some task⟩, true⟩ =
      .ok ⟨[(.name, .text task)], none, true⟩ :=
  rfl

theorem readAll_task {task : String} (plain : task.toList.head? ≠ some '-') (rest : List String) :
    Reading.readAll .add false {} (task :: rest) =
      Reading.readAll .add false ⟨[], some ⟨.name, some task⟩, true⟩ rest := by
  have dashes : task ≠ "--" := by
    rintro rfl
    exact plain (by decide)
  rw [Reading.readAll_cons dashes (by simp), Reading.argument_positional plain rfl,
    Reading.positional_of_settle rfl rfl rfl]
  rfl

theorem readAll_words (text : String) :
    Reading.readAll place.level false {} (place.words ++ [text]) =
      Reading.readAll place.level false place.waiting [text] := by
  cases place with
  | priority task plain =>
    have name (r : Reading) : r.argument .add "--priority" = r.long .add "priority" none :=
      Reading.argument_long (by decide) (by decide)
    show Reading.readAll .add false {} [task, "--priority", text] = Reading.readAll .add _ _ _
    rw [readAll_task plain, Reading.readAll_cons (by decide) (by simp), name,
      Reading.long_awaiting rfl rfl (settle_task task)]
    rfl
  | minPriority =>
    have name (r : Reading) : r.argument .ls "--min-priority" = r.long .ls "min-priority" none :=
      Reading.argument_long (by decide) (by decide)
    show Reading.readAll .ls false {} ["--min-priority", text] = Reading.readAll .ls _ _ _
    rw [Reading.readAll_cons (by decide) (by simp), name,
      Reading.long_awaiting rfl rfl (Reading.settle_of_closed rfl)]
    rfl
  | id => rfl

theorem readAll_nonneg (above : 0 ≤ n) :
    Reading.readAll place.level false place.waiting [toString n.toInt] =
      .ok (⟨place.given, some ⟨place.slot, some (toString n.toInt)⟩, place.met⟩, none) := by
  have plain := head?_toString_of_nonneg above
  have dashes : toString n.toInt ≠ "--" := by
    intro same
    rw [same] at plain
    exact plain (by decide)
  rw [Reading.readAll_cons dashes (by cases place <;> simp [level])]
  cases place with
  | priority | minPriority =>
    rw [Reading.argument_value plain rfl]
    rfl
  | id =>
    rw [Reading.argument_positional plain rfl, Reading.positional_of_settle rfl rfl rfl]
    rfl

theorem readAll_negative (below : ¬ 0 ≤ n) :
    Reading.readAll place.level false place.waiting [toString n.toInt] =
      .error .unknownArgument := by
  obtain ⟨c, rest, written, digit⟩ := toList_toString_of_neg below
  have dashes : toString n.toInt ≠ "--" := by
    intro same
    rw [same, show "--".toList = ['-', '-'] by decide] at written
    cases written
    exact absurd digit (by decide)
  rw [Reading.readAll_cons dashes (by cases place <;> simp [level]),
    Reading.argument_negative written digit]
  rfl

theorem settle_number (n : Int64) :
    Reading.settle ⟨place.given, some ⟨place.slot, some (toString n.toInt)⟩, place.met⟩ =
      .ok ⟨place.given ++ [(place.slot, .integer n)], none, place.met⟩ := by
  have takes : place.slot.kind.Takes (.integer n) := by cases place <;> exact .integer n
  have fresh : place.given.lookup place.slot = none := by cases place <;> rfl
  have settles := Reading.settle_of_takes place.slot place.met takes fresh
  simpa only [Setting.text?, Option.getD_some] using settles

/-- Behind the name of its option or behind dashes a number is read whatever its sign. -/
theorem exists_readAll_attached (n : Int64) :
    ∃ last, Reading.readAll place.level false {} (place.attached n).tail = .ok (last, none) ∧
      last.settle = .ok ⟨place.given ++ [(place.slot, .integer n)], none, place.met⟩ := by
  cases place with
  | priority task plain =>
    have read : Reading.argument ⟨[], some ⟨.name, some task⟩, true⟩ .add
        (Choice.priority n).argument =
          .ok ⟨[(.name, .text task), (.priority, .integer n)], none, true⟩ :=
      Reading.argument_choice (settle_task task) rfl (by simp) rfl
    refine ⟨_, (readAll_task plain _).trans ?_, Reading.settle_of_closed rfl⟩
    refine (Reading.readAll_choice (.priority n) []).trans ?_
    rw [read]
    rfl
  | minPriority =>
    refine ⟨_, ?_, Reading.settle_of_closed rfl⟩
    exact Reading.readAll_choices (r := {}) [.minPriority n] [] rfl
      (List.forall_mem_singleton.mpr rfl) (by simp) (by simp)
  | id =>
    refine ⟨_, ?_, settle_number .id n⟩
    exact Reading.readAll_positional (r := {}) rfl rfl rfl _

theorem command_number (n : Int64) :
    Reading.command ⟨place.given ++ [(place.slot, .integer n)], none, place.met⟩ place.level =
      .ok (place.command n) := by
  cases place <;> rfl

variable {environment : Option String}

theorem ofArguments_of_read {name : String} {rest : List String} {last : Reading}
    (usable : environment ≠ some "") (named : Level.ofName? name = some place.level)
    (read : Reading.readAll place.level false {} rest = .ok (last, none))
    (settles : last.settle = .ok ⟨place.given ++ [(place.slot, .integer n)], none, place.met⟩) :
    Invocation.ofArguments environment (name :: rest) =
      .ok ⟨environment.getD "tdoo.db", false, place.command n⟩ := by
  rw [Invocation.ofArguments_of_levels (Reading.readAll_name named rfl rest) read rfl settles
    (place.command_number n) usable]
  cases place <;> cases environment <;> rfl

theorem ofArguments_apart (usable : environment ≠ some "") (n : Int64) :
    Invocation.ofArguments environment (place.apart n) =
      if 0 ≤ n then .ok ⟨environment.getD "tdoo.db", false, place.command n⟩
      else .error .unknownArgument := by
  obtain ⟨name, named, written⟩ : ∃ name, Level.ofName? name = some place.level ∧
      place.apart n = name :: (place.words ++ [toString n.toInt]) := by
    cases place <;> exact ⟨_, rfl, rfl⟩
  have words := place.readAll_words (toString n.toInt)
  rw [written]
  split
  case isTrue above =>
    exact place.ofArguments_of_read usable named (words.trans (place.readAll_nonneg above))
      (place.settle_number n)
  case isFalse below =>
    exact Invocation.ofArguments_of_error (Reading.readAll_name named rfl _)
      (words.trans (place.readAll_negative below))

theorem ofArguments_attached (usable : environment ≠ some "") (n : Int64) :
    Invocation.ofArguments environment (place.attached n) =
      .ok ⟨environment.getD "tdoo.db", false, place.command n⟩ := by
  obtain ⟨name, named, written⟩ : ∃ name, Level.ofName? name = some place.level ∧
      place.attached n = name :: (place.attached n).tail := by
    cases place <;> exact ⟨_, rfl, rfl⟩
  obtain ⟨last, read, settles⟩ := place.exists_readAll_attached n
  rw [written]
  exact place.ofArguments_of_read usable named read settles

end NumberPlace

namespace Invocation

/-- As an argument of its own a number is read where it is not negative, and refused where it is.
Attached to the name of its option or behind dashes every number is read. -/
theorem negatives_are_attached (place : NumberPlace) (n : Int64) (environment : Option String)
    (usable : environment ≠ some "") :
    ofArguments environment (place.apart n) =
        (if 0 ≤ n then .ok ⟨environment.getD "tdoo.db", false, place.command n⟩
        else .error .unknownArgument) ∧
      ofArguments environment (place.attached n) =
        .ok ⟨environment.getD "tdoo.db", false, place.command n⟩ :=
  ⟨place.ofArguments_apart usable n, place.ofArguments_attached usable n⟩

theorem negatives_are_attached_least :
    (none : Option String) ≠ some "" ∧
      ofArguments none ["add", "milk", "--priority", "-9223372036854775808"] =
        .error .unknownArgument ∧
      ofArguments none ["add", "milk", "--priority=-9223372036854775808"] =
        .ok ⟨"tdoo.db", false, .add "milk" "Inbox" Int64.minValue ""⟩ := by
  have read := negatives_are_attached (.priority "milk" (by decide)) Int64.minValue none (by decide)
  exact ⟨by decide, read⟩

/-- The number is taken for an option. -/
theorem negative_refused :
    ofArguments none ["add", "milk", "--priority", "-2"] ≠
      .ok ⟨"tdoo.db", false, .add "milk" "Inbox" (-2) ""⟩ := by
  have refused :
      ofArguments none ["add", "milk", "--priority", "-2"] = .error .unknownArgument := by
    rfl
  rw [refused]
  exact nofun

end Invocation

end Criteria.CommandLine
