import Criteria.Proofs.CommandLine.Choices
import Criteria.Proofs.Lookups

/-!
Layouts of invocations. Options with attached values can stand in any order, those that all commands
share on either side of the command's name, and a layout says which stands where. Main statement:
what stands behind the name sets every slot of the command or leaves it to its default.
-/

namespace Criteria

namespace Tasks.Command

open CommandLine (Choice Slot Setting)

def level : Command → CommandLine.Level
  | init => .init
  | add .. => .add
  | done _ => .done
  | ls .. => .ls

def word : Command → String
  | init => "init"
  | add .. => "add"
  | done _ => "done"
  | ls .. => "ls"

theorem ofName?_word (command : Command) :
    CommandLine.Level.ofName? command.word = some command.level := by
  cases command <;> rfl

/-- What is written without the name of an option. -/
def positional? : Command → Option String
  | add name .. => some name
  | done id => some (toString id.toInt)
  | init | ls .. => none

def choices : Command → List Choice
  | init | done _ => []
  | add _ list priority content => [.list list, .priority priority, .content content]
  | ls filter asJson =>
      (filter.list.map Choice.list).toList ++ (if filter.all then [.all] else []) ++
        (filter.minPriority.map Choice.minPriority).toList ++
        (filter.search.map Choice.search).toList ++ (filter.limit.map Choice.limit).toList ++
        (if asJson then [.json] else [])

/-- What holds where nothing is written. -/
def defaults : Command → List Choice
  | add .. => [.list "Inbox", .priority 0, .content ""]
  | init | done _ | ls .. => []

/-- The positional as it is read. -/
def posited : Command → List (Slot × Setting)
  | add name .. => [(.name, .text name)]
  | done id => [(.id, .integer id)]
  | init | ls .. => []

end Tasks.Command

namespace CommandLine

open Tasks (Command)

namespace Invocation

def choices (i : Invocation) : List Choice :=
  .db i.db :: ((if i.verbose then [.verbose] else []) ++ i.command.choices)

/-- Where each option stands. What is left out would be set to its default. -/
structure Layout (i : Invocation) where
  before : List Choice
  behind : List Choice
  leftOut : List Choice
  dashed : Bool
  complete : (behind ++ (before ++ leftOut)).Perm i.choices
  shared : ∀ choice ∈ before, choice.IsShared
  usual : ∀ choice ∈ leftOut, choice ∈ i.command.defaults

/-- Dashes announce a positional. They can stand where there is none. -/
def ending (command : Command) (dashed : Bool) : List String :=
  match command.positional? with
  | some text => ["--", text]
  | none => if dashed then ["--"] else []

/-- Every option can stand behind the command. -/
instance (i : Invocation) : Nonempty i.Layout :=
  ⟨{ before := [], behind := i.choices, leftOut := [], dashed := false,
     complete := by simp, shared := nofun, usual := nofun }⟩

def Layout.arguments {i : Invocation} (layout : i.Layout) : List String :=
  layout.before.map Choice.argument ++ i.command.word ::
    (layout.behind.map Choice.argument ++ ending i.command layout.dashed)

end Invocation

theorem Choice.level_long?_of_isShared (choice : Choice) (shared : choice.IsShared)
    (level : Level) : level.long? choice.name = some choice.slot := by
  cases choice with
  | db | verbose => cases level <;> rfl
  | list | priority | content | all | minPriority | search | limit | json => exact shared.elim

theorem Choice.level_long?_of_mem {command : Command} {choice : Choice}
    (member : choice ∈ command.choices) :
    command.level.long? choice.name = some choice.slot := by
  cases command with
  | init | done => simp [Tasks.Command.choices] at member
  | add name list priority content =>
    simp only [Tasks.Command.choices, List.mem_cons, List.not_mem_nil, or_false] at member
    obtain rfl | rfl | rfl := member <;> rfl
  | ls filter asJson =>
    simp only [Tasks.Command.choices, List.mem_append, Option.mem_toList,
      Option.map_eq_some_iff, List.mem_ite_nil_right, List.mem_singleton] at member
    obtain (((((⟨_, -, rfl⟩ | ⟨-, rfl⟩) | ⟨_, -, rfl⟩) | ⟨_, -, rfl⟩) | ⟨_, -, rfl⟩) | ⟨-, rfl⟩) :=
      member <;> rfl

theorem Choice.slots_option {α : Type} (make : α → Choice) (slot : Slot)
    (makes : ∀ a, (make a).slot = slot) (value : Option α) :
    ((value.map make).toList.map Choice.slot).Sublist [slot] := by
  cases value <;> simp [makes]

theorem Choice.slots_flag (choice : Choice) (set : Bool) :
    ((if set then [choice] else []).map Choice.slot).Sublist [choice.slot] := by
  cases set <;> simp

theorem slots_command (command : Command) :
    (command.choices.map Choice.slot).Sublist
      [.list, .all, .priority, .minPriority, .content, .search, .limit, .json] := by
  cases command with
  | init | done => exact List.nil_sublist _
  | add =>
    show [Slot.list, .priority, .content].Sublist _
    decide
  | ls filter asJson =>
    have list := Choice.slots_option .list .list (fun _ => rfl) filter.list
    have all := Choice.slots_flag .all filter.all
    have least := Choice.slots_option .minPriority .minPriority (fun _ => rfl) filter.minPriority
    have search := Choice.slots_option .search .search (fun _ => rfl) filter.search
    have limit := Choice.slots_option .limit .limit (fun _ => rfl) filter.limit
    have json := Choice.slots_flag .json asJson
    have parts := ((((list.append all).append least).append search).append limit).append json
    simp only [← List.map_append] at parts
    exact parts.trans (by decide)

namespace Invocation

theorem nodup_choices (i : Invocation) : (i.choices.map Choice.slot).Nodup := by
  have parts := ((Choice.slots_flag .verbose i.verbose).append (slots_command i.command)).cons_cons
    Slot.db
  rw [← List.map_append] at parts
  exact parts.nodup (by decide)

end Invocation

theorem Choice.lookup_singleton (choice : Choice) (slot : Slot) :
    ([choice].map Choice.given).lookup slot =
      if slot = choice.slot then some choice.setting else none := by
  rw [List.map_cons, List.lookup_cons]
  by_cases same : slot = choice.slot
  · rw [if_pos same, beq_iff_eq.mpr (show slot = choice.given.1 from same)]
    rfl
  · rw [if_neg same, beq_eq_false_iff_ne.mpr (show slot ≠ choice.given.1 from same)]
    rfl

theorem Choice.lookup_option {α : Type} (make : α → Choice) (slot : Slot)
    (makes : ∀ a, (make a).slot = slot) (value : Option α) (sought : Slot) :
    ((value.map make).toList.map Choice.given).lookup sought =
      if sought = slot then value.map fun a => (make a).setting else none := by
  cases value with
  | none => simp
  | some a => exact (lookup_singleton (make a) sought).trans (by rw [makes]; rfl)

theorem Choice.lookup_flag (choice : Choice) (set : Bool) (sought : Slot) :
    ((if set then [choice] else []).map Choice.given).lookup sought =
      if sought = choice.slot ∧ set then some choice.setting else none := by
  cases set with
  | false => simp
  | true => simpa using lookup_singleton choice sought

theorem lookup_ls (filter : Tasks.Filter) (asJson : Bool) (slot : Slot) :
    ((Command.ls filter asJson).choices.map Choice.given).lookup slot =
      match slot with
      | .list => filter.list.map Setting.text
      | .all => if filter.all then some .flag else none
      | .minPriority => filter.minPriority.map Setting.integer
      | .search => filter.search.map Setting.text
      | .limit => filter.limit.map Setting.count
      | .json => if asJson then some .flag else none
      | _ => none := by
  simp only [Tasks.Command.choices, List.map_append, List.lookup_append, Choice.lookup_flag,
    Choice.lookup_option Choice.list .list (fun _ => rfl),
    Choice.lookup_option Choice.minPriority .minPriority (fun _ => rfl),
    Choice.lookup_option Choice.search .search (fun _ => rfl),
    Choice.lookup_option Choice.limit .limit (fun _ => rfl)]
  cases slot <;> simp [Choice.slot, Choice.setting]

/-- No option sets a positional. -/
theorem lookup_positional {slot : Slot} (named : slot = .name ∨ slot = .id)
    (choices : List Choice) : (choices.map Choice.given).lookup slot = none := by
  rw [List.lookup_eq_none_iff]
  intro pair member
  obtain ⟨choice, -, rfl⟩ := List.mem_map.mp member
  obtain rfl | rfl := named <;> cases choice <;> rfl

theorem lookup_of_mem_defaults {command : Command} {pair : Slot × Setting}
    (member : pair ∈ command.defaults.map Choice.given) :
    (command.defaults.map Choice.given).lookup pair.1 = some pair.2 := by
  cases command with
  | init | done | ls => simp [Tasks.Command.defaults] at member
  | add =>
    simp only [Tasks.Command.defaults, List.map_cons, List.map_nil, List.mem_cons,
      List.not_mem_nil, or_false] at member
    obtain rfl | rfl | rfl := member <;> rfl

theorem lookup_verbose (command : Command) :
    (command.choices.map Choice.given).lookup .verbose = none := by
  cases command with
  | init | done | add => rfl
  | ls => exact lookup_ls ..

theorem Reading.text?_getD {s : Reading} {slot : Slot} {value default : String}
    (set : (s.get? slot).or (some (.text default)) = some (.text value)) :
    (s.text? slot).getD default = value := by
  rw [text?]
  cases given : s.get? slot <;> simp_all

theorem Reading.integer?_getD {s : Reading} {slot : Slot} {value default : Int64}
    (set : (s.get? slot).or (some (.integer default)) = some (.integer value)) :
    (s.integer? slot).getD default = value := by
  rw [integer?]
  cases given : s.get? slot <;> simp_all

namespace Invocation

variable {i : Invocation} (layout : i.Layout)

theorem lookup_choices (i : Invocation) (slot : Slot) :
    (i.choices.map Choice.given).lookup slot =
      match slot with
      | .db => some (.text i.db)
      | .verbose => if i.verbose then some .flag else none
      | slot => (i.command.choices.map Choice.given).lookup slot := by
  have parts : i.choices = [.db i.db] ++ ((if i.verbose then [.verbose] else []) ++
    i.command.choices) := rfl
  rw [parts, List.map_append, List.map_append, List.lookup_append, List.lookup_append,
    Choice.lookup_singleton, Choice.lookup_flag]
  cases slot <;> simp [Choice.slot, Choice.setting, lookup_verbose]

namespace Layout

theorem nodup_places :
    ((layout.behind ++ (layout.before ++ layout.leftOut)).map Choice.slot).Nodup :=
  (layout.complete.map Choice.slot).nodup_iff.mpr i.nodup_choices

/-- Every slot is set at one of the places where its option can stand. -/
theorem lookup_places (slot : Slot) :
    ((layout.behind.map Choice.given).lookup slot).or
      (((layout.before.map Choice.given).lookup slot).or
        ((layout.leftOut.map Choice.given).lookup slot)) =
      (i.choices.map Choice.given).lookup slot := by
  have distinct : (((layout.behind ++ (layout.before ++ layout.leftOut)).map Choice.given).map
      Prod.fst).Nodup := by
    rw [List.map_map]
    exact layout.nodup_places
  rw [← lookup_of_perm (layout.complete.map Choice.given) distinct slot]
  simp only [List.map_append, List.lookup_append]

theorem lookup_before {slot : Slot} (unshared : slot ≠ .db ∧ slot ≠ .verbose) :
    (layout.before.map Choice.given).lookup slot = none := by
  rw [List.lookup_eq_none_iff]
  intro pair member
  obtain ⟨choice, inside, rfl⟩ := List.mem_map.mp member
  have shared := layout.shared choice inside
  refine bne_iff_ne.mpr ?_
  cases choice with
  | db => exact unshared.1
  | verbose => exact unshared.2
  | list | priority | content | all | minPriority | search | limit | json => exact shared.elim

theorem lookup_default {slot : Slot} {setting : Setting}
    (found : (layout.leftOut.map Choice.given).lookup slot = some setting) :
    (i.command.defaults.map Choice.given).lookup slot = some setting := by
  obtain ⟨_, _, parts, -⟩ := List.lookup_eq_some_iff.mp found
  have member : (slot, setting) ∈ layout.leftOut.map Choice.given := by simp [parts]
  obtain ⟨choice, left, same⟩ := List.mem_map.mp member
  have usual : choice.given ∈ i.command.defaults.map Choice.given :=
    List.mem_map_of_mem (layout.usual choice left)
  rw [same] at usual
  exact lookup_of_mem_defaults usual

theorem lookup_leftOut {slot : Slot} (shared : slot = .db ∨ slot = .verbose) :
    (layout.leftOut.map Choice.given).lookup slot = none := by
  have unset : (i.command.defaults.map Choice.given).lookup slot = none := by
    obtain rfl | rfl := shared <;> cases i.command <;> rfl
  rw [Option.eq_none_iff_forall_ne_some]
  intro setting found
  exact nomatch unset.symm.trans (layout.lookup_default found)

section Behind

variable {s : Reading} (written : s.given = layout.behind.map Choice.given ++ i.command.posited)

include written

theorem get?_inner {slot : Slot} (named : slot ≠ .name ∧ slot ≠ .id) :
    s.get? slot = (layout.behind.map Choice.given).lookup slot := by
  have apart : i.command.posited.lookup slot = none := by
    cases i.command <;>
      simp [Tasks.Command.posited, List.lookup_cons, beq_eq_false_iff_ne.mpr, named]
  rw [Reading.get?, written, List.lookup_append, apart, Option.or_none]

theorem get?_command {slot : Slot} (named : slot ≠ .name ∧ slot ≠ .id)
    (unshared : slot ≠ .db ∧ slot ≠ .verbose) :
    (s.get? slot).or ((layout.leftOut.map Choice.given).lookup slot) =
      (i.command.choices.map Choice.given).lookup slot := by
  have places := layout.lookup_places slot
  rw [layout.lookup_before unshared, Option.none_or, ← layout.get?_inner written named,
    i.lookup_choices] at places
  cases slot <;> simp_all

/-- A slot that is not set has its default. -/
theorem get?_or_default (slot : Slot) (setting : Setting) (named : slot ≠ .name ∧ slot ≠ .id)
    (unshared : slot ≠ .db ∧ slot ≠ .verbose)
    (set : (i.command.choices.map Choice.given).lookup slot = some setting) :
    (s.get? slot).or ((i.command.defaults.map Choice.given).lookup slot) = some setting := by
  rw [← layout.get?_command written named unshared] at set
  cases behind : s.get? slot with
  | some there => simpa [behind] using set
  | none => exact layout.lookup_default (by simpa [behind] using set)

theorem get?_positional {slot : Slot} {setting : Setting} (named : slot = .name ∨ slot = .id)
    (set : i.command.posited = [(slot, setting)]) : s.get? slot = some setting := by
  rw [Reading.get?, written, List.lookup_append, lookup_positional named, set]
  simp

theorem command_add {name list content : String} {priority : Int64}
    (is : i.command = .add name list priority content) :
    s.command .add = .ok (.add name list priority content) := by
  have set (slot : Slot) (value : Setting) := layout.get?_or_default written slot value
  rw [is] at set
  have task : s.text? .name = some name := by
    rw [Reading.text?, layout.get?_positional written (.inl rfl) (by rw [is]; rfl)]
  have board : (s.text? .list).getD defaultList = list :=
    Reading.text?_getD (set .list _ (by decide) (by decide) rfl)
  have weight : (s.integer? .priority).getD 0 = priority :=
    Reading.integer?_getD (set .priority _ (by decide) (by decide) rfl)
  have notes : (s.text? .content).getD "" = content :=
    Reading.text?_getD (set .content _ (by decide) (by decide) rfl)
  simp only [Reading.command, task, board, weight, notes]

theorem command_done {id : Int64} (is : i.command = .done id) :
    s.command .done = .ok (.done id) := by
  simp only [Reading.command, Reading.integer?,
    layout.get?_positional written (.inr rfl) (by rw [is]; rfl)]

theorem command_ls {filter : Tasks.Filter} {asJson : Bool} (is : i.command = .ls filter asJson) :
    s.command .ls = .ok (.ls filter asJson) := by
  have nothing : layout.leftOut = [] := List.eq_nil_iff_forall_not_mem.mpr fun choice left => by
    simpa [is, Tasks.Command.defaults] using layout.usual choice left
  have set (slot : Slot) (named : slot ≠ .name ∧ slot ≠ .id)
      (unshared : slot ≠ .db ∧ slot ≠ .verbose) :
      s.get? slot = ((Command.ls filter asJson).choices.map Choice.given).lookup slot := by
    rw [← is, ← layout.get?_command written named unshared, nothing]
    simp
  have list : s.text? .list = filter.list := by
    rw [Reading.text?, set .list (by decide) (by decide), lookup_ls]
    cases filter.list <;> rfl
  have all : s.has .all = filter.all := by
    rw [Reading.has, set .all (by decide) (by decide), lookup_ls]
    cases filter.all <;> rfl
  have least : s.integer? .minPriority = filter.minPriority := by
    rw [Reading.integer?, set .minPriority (by decide) (by decide), lookup_ls]
    cases filter.minPriority <;> rfl
  have search : s.text? .search = filter.search := by
    rw [Reading.text?, set .search (by decide) (by decide), lookup_ls]
    cases filter.search <;> rfl
  have limit : s.count? .limit = filter.limit := by
    rw [Reading.count?, set .limit (by decide) (by decide), lookup_ls]
    cases filter.limit <;> rfl
  have json : s.has .json = asJson := by
    rw [Reading.has, set .json (by decide) (by decide), lookup_ls]
    cases asJson <;> rfl
  rw [Reading.command, list, all, least, search, limit, json]

theorem command_eq : s.command i.command.level = .ok i.command := by
  cases is : i.command with
  | init => rfl
  | add => exact layout.command_add written is
  | done => exact layout.command_done written is
  | ls => exact layout.command_ls written is

end Behind

end Layout

end Invocation

end CommandLine

end Criteria
