import Criteria.Proofs.CommandLine.Steps

namespace Criteria.CommandLine

/-- An option and what it is set to. -/
inductive Choice
  | db (path : String)
  | verbose
  | list (name : String)
  | priority (n : Int64)
  | content (text : String)
  | all
  | minPriority (n : Int64)
  | search (text : String)
  | limit (n : UInt64)
  | json
  deriving DecidableEq

namespace Choice

def argument : Choice → String
  | db path => "--db=" ++ path
  | verbose => "--verbose"
  | list name => "--list=" ++ name
  | priority n => "--priority=" ++ toString n.toInt
  | content text => "--content=" ++ text
  | all => "--all"
  | minPriority n => "--min-priority=" ++ toString n.toInt
  | search text => "--search=" ++ text
  | limit n => "--limit=" ++ toString n.toNat
  | json => "--json"

def slot : Choice → Slot
  | db _ => .db
  | verbose => .verbose
  | list _ => .list
  | priority _ => .priority
  | content _ => .content
  | all => .all
  | minPriority _ => .minPriority
  | search _ => .search
  | limit _ => .limit
  | json => .json

def name : Choice → String
  | db _ => "db"
  | verbose => "verbose"
  | list _ => "list"
  | priority _ => "priority"
  | content _ => "content"
  | all => "all"
  | minPriority _ => "min-priority"
  | search _ => "search"
  | limit _ => "limit"
  | json => "json"

def setting : Choice → Setting
  | db text | list text | content text | search text => .text text
  | priority n | minPriority n => .integer n
  | limit n => .count n
  | verbose | all | json => .flag

def given (choice : Choice) : Slot × Setting :=
  (choice.slot, choice.setting)

/-- It can be given in front of the command and behind it. -/
def IsShared : Choice → Prop
  | db _ | verbose => True
  | _ => False

theorem takes {choice : Choice} (named : choice ≠ .db "") :
    choice.slot.kind.Takes choice.setting := by
  cases choice with
  | db path => exact .path fun empty => named (congrArg db empty)
  | list text => exact .text text
  | content text => exact .text text
  | search text => exact .text text
  | priority n => exact .integer n
  | minPriority n => exact .integer n
  | limit n => exact .count n
  | verbose | all | json => exact .flag

theorem toList_argument (choice : Choice) :
    choice.argument.toList =
      '-' :: '-' :: (choice.name.toList ++ attachment choice.setting.text?) := by
  cases choice <;> simp [argument, name, attachment, setting, Setting.text?]

theorem exists_toList_argument (choice : Choice) :
    ∃ c rest, choice.argument.toList = '-' :: '-' :: c :: rest := by
  rw [toList_argument]
  cases choice <;> simp [name]

theorem not_mem_name (choice : Choice) : '=' ∉ choice.name.toList := by
  cases choice <;> simp [name]

end Choice

namespace Reading

variable {r settled : Reading} {level : Level} {choice : Choice}

theorem long_choice (settles : r.settle = .ok settled)
    (known : level.long? choice.name = some choice.slot) (named : choice ≠ .db "")
    (fresh : settled.get? choice.slot = none) :
    r.long level choice.name choice.setting.text? = .ok (settled.give [choice.given]) := by
  have written := set_of_takes (choice.takes named) fresh
  cases choice with
  | verbose | all | json => exact (long_flag known rfl (by decide) settles).trans written
  | db | list | priority | content | minPriority | search | limit =>
    exact (long_attached known rfl settles _).trans written

/-- An attached value leaves nothing open. -/
theorem argument_choice (settles : r.settle = .ok settled)
    (known : level.long? choice.name = some choice.slot) (named : choice ≠ .db "")
    (fresh : settled.get? choice.slot = none) :
    r.argument level choice.argument = .ok (settled.give [choice.given]) := by
  rw [argument_long choice.toList_argument choice.not_mem_name]
  exact long_choice settles known named fresh

theorem readAll_choice (choice : Choice) (rest : List String) :
    readAll level false r (choice.argument :: rest) =
      (r.argument level choice.argument).bind fun r => readAll level false r rest := by
  obtain ⟨c, others, written⟩ := choice.exists_toList_argument
  have word (text : String) (same : choice.argument = text) :
      text.toList = '-' :: '-' :: c :: others := same ▸ written
  refine readAll_cons (fun same => by simpa using word _ same) (fun _ => ⟨?_, ?_⟩) rest
  · exact fun same => by simpa using word _ same
  · unfold Level.ofName?
    split
    case h_1 same | h_2 same | h_3 same | h_4 same => simpa using word _ same
    case h_5 => rfl

/-- Different options are read one after the other. -/
theorem readAll_choices (choices : List Choice) (rest : List String) (closed : r.pending = none)
    (known : ∀ choice ∈ choices, level.long? choice.name = some choice.slot)
    (named : .db "" ∉ choices)
    (distinct : (r.given.map Prod.fst ++ choices.map Choice.slot).Nodup) :
    readAll level false r (choices.map Choice.argument ++ rest) =
      readAll level false (r.give (choices.map Choice.given)) rest := by
  induction choices generalizing r with
  | nil => simp [give]
  | cons choice choices induction =>
    have fresh : r.get? choice.slot = none := by
      rw [get?, List.lookup_eq_none_iff]
      intro pair member
      have apart := (List.nodup_append.mp distinct).2.2 pair.1 (List.mem_map_of_mem member)
        choice.slot List.mem_cons_self
      exact bne_iff_ne.mpr apart.symm
    have read : r.argument level choice.argument = .ok (r.give [choice.given]) :=
      argument_choice (settle_of_closed closed) (known choice List.mem_cons_self)
        (fun same => named (same ▸ List.mem_cons_self)) fresh
    rw [List.map_cons, List.cons_append, readAll_choice, read]
    show readAll level false (r.give [choice.given]) _ = _
    rw [induction]
    · simp [give]
    · exact closed
    · exact fun other member => known other (List.mem_cons_of_mem _ member)
    · exact fun member => named (List.mem_cons_of_mem _ member)
    · simpa [give, Choice.given] using distinct

end Reading

end Criteria.CommandLine
