import Criteria.Proofs.Tasks.Filtering

/-!
Commands as steps between boards. A run from an empty database answers and stores what the steps
allow, and nothing else.
-/

namespace Criteria.Tasks

def Command.isAdd : Command → Bool
  | .add .. => true
  | _ => false

namespace Board

variable {board : Board} {plan : Sql.Plan}

theorem runInit_leads {before after : Sql.Database} (created : createTables before = .ok after) :
    Command.runInit.Leads before (.ok "initialized") after := by
  have ready : Action.initSchema.Leads before (.ok ()) after :=
    (Action.Leads.perform .schema created).bind (Action.Leads.report .schemaReady)
  exact ready.bind (.pure _)

theorem createList_leads (consistent : board.Consistent) {name : String} {id : Int64}
    (absent : board.list? name = none) (number : number? board.lists.length = some id) :
    (Action.createList name).Leads (board.database plan) (.ok ⟨id, name⟩)
      ((board.addList ⟨id, name⟩).database plan) :=
  (Action.Leads.change _ (insertListRow_database consistent absent number)).bind
    ((Action.Leads.report _).bind (.pure _))

theorem ensureList_leads (consistent : board.Consistent) {name : String} {list : TaskList}
    {after : Board} (ensured : board.ensure name = some (list, after)) :
    (Action.ensureList name).Leads (board.database plan) (.ok list) (after.database plan) := by
  unfold Board.ensure at ensured
  apply Action.Leads.bind (findList_leads consistent name)
  cases found : board.list? name with
  | some known =>
      rw [found] at ensured
      cases ensured
      exact .pure _
  | none =>
      rw [found] at ensured
      obtain ⟨id, number, made⟩ := Option.map_eq_some_iff.mp ensured
      cases made
      exact createList_leads consistent found number

theorem ensureList_leads_full (consistent : board.Consistent) {name : String}
    (full : board.ensure name = none) :
    (Action.ensureList name).Leads (board.database plan) (.error (.list name .full))
      (board.database plan) := by
  unfold Board.ensure at full
  apply Action.Leads.bind (findList_leads consistent name)
  cases found : board.list? name with
  | some known => simp [found] at full
  | none =>
      rw [found] at full
      have number := Option.map_eq_none_iff.mp full
      exact (Action.Leads.change_error _ (insertListRow_full consistent name number)).bind_error

theorem insertTask_leads (consistent : board.Consistent) {list : TaskList} {id : Int64}
    (listed : list ∈ board.lists) (name content : String) (priority : Int64)
    (number : number? board.items.length = some id) :
    (Action.insertTask list name content priority).Leads (board.database plan)
      (.ok ⟨id, list.id, name, content, false, priority⟩)
      ((board.addItem ⟨id, list, name, content, false, priority⟩).database plan) :=
  (Action.Leads.change _ (insertTaskRow_database consistent listed name content priority
    number)).bind ((Action.Leads.report _).bind (.pure _))

theorem insertTask_leads_full (consistent : board.Consistent) (list : TaskList)
    (name content : String) (priority : Int64) (number : number? board.items.length = none) :
    (Action.insertTask list name content priority).Leads (board.database plan)
      (.error (.insertion .full)) (board.database plan) :=
  (Action.Leads.change_error _ (insertTaskRow_full consistent list.id name content priority
    number)).bind_error

theorem runAdd_leads (consistent : board.Consistent) {name list content : String}
    {priority : Int64} {known : TaskList} {after : Board} {id : Int64}
    (ensured : board.ensure list = some (known, after))
    (number : number? after.items.length = some id) :
    (Command.runAdd name list priority content).Leads (board.database plan)
      (.ok ("added #" ++ toString id.toInt ++ " to " ++ list))
      ((after.addItem ⟨id, known, name, content, false, priority⟩).database plan) := by
  obtain ⟨kept, listed, named, _⟩ := consistent.ensure ensured
  subst named
  have listing := @ensureList_leads board plan consistent _ _ _ ensured
  have inserting := @insertTask_leads after plan kept _ _ listed name content priority number
  exact listing.bind (inserting.bind (.pure _))

theorem runAdd_leads_full (consistent : board.Consistent) {name list content : String}
    {priority : Int64} {known : TaskList} {after : Board}
    (ensured : board.ensure list = some (known, after))
    (number : number? after.items.length = none) :
    (Command.runAdd name list priority content).Leads (board.database plan)
      (.error (.insertion .full)) (after.database plan) := by
  obtain ⟨kept, _, _, _⟩ := consistent.ensure ensured
  have listing := @ensureList_leads board plan consistent _ _ _ ensured
  have inserting := @insertTask_leads_full after plan kept known name content priority number
  exact listing.bind inserting.bind_error

theorem runDone_leads (consistent : board.Consistent) {id : Int64} {item : Item}
    (found : board.items.find? (·.id = id) = some item) :
    (Command.runDone id).Leads (board.database plan)
      (.ok ("done #" ++ toString item.id.toInt ++ " " ++ item.name))
      ((board.setDone id).database plan) := by
  have looked := @findTask_leads board plan consistent id
  rw [found] at looked
  have marked : (Action.markDone id).Leads (board.database plan)
      (.ok { item.task with done := true }) ((board.setDone id).database plan) :=
    looked.bind ((Action.Leads.perform .update (markRowDone_database board id)).bind (.pure _))
  exact marked.bind (.pure _)

theorem runDone_leads_missing (consistent : board.Consistent) {id : Int64}
    (missing : board.items.find? (·.id = id) = none) :
    (Command.runDone id).Leads (board.database plan) (.error (.noTask id))
      (board.database plan) := by
  have looked := @findTask_leads board plan consistent id
  rw [missing] at looked
  have unmarked : (Action.markDone id).Leads (board.database plan) (.error (.noTask id))
      (board.database plan) := looked.bind (.throw _)
  exact unmarked.bind_error

/-- Listings change nothing, whatever they find. -/
theorem runLs_keeps (db : Sql.Database) (filter : Filter) (asJson : Bool) :
    (Command.runLs filter asJson).Keeps db := by
  refine Action.Keeps.bind (.ofQuery _) fun q => Action.Keeps.bind (.report _) fun _ =>
    Action.Keeps.bind (.ask _) fun tasks => ?_
  cases asJson with
  | true => exact .pure _
  | false => exact Action.Keeps.bind (.ask _) fun lists => .pure _

theorem run_leads_empty {command : Command} (other : command ≠ .init) :
    ∃ error, command.run.Leads (.empty plan) (.error error) (.empty plan) := by
  cases command with
  | init => exact absurd rfl other
  | add name list priority content =>
      obtain ⟨error, failed⟩ := findList_leads_empty list
      exact ⟨error, failed.bind_error.bind_error⟩
  | done id =>
      obtain ⟨error, failed⟩ := findTask_leads_empty id
      exact ⟨error, failed.bind_error.bind_error⟩
  | ls filter asJson =>
      obtain ⟨error, failed⟩ := Query.result_getList_missing filter.wellFormed_asked
        filter.plainNames_asked (@rfl _ ((Sql.Database.empty plan).table? Task.entity.table))
      have asked : (Action.ask (filter.asked.getList · Task.entity)).Leads (.empty plan)
          (.error (.query error)) (.empty plan) := .ask_error _ failed
      refine ⟨.query error, ?_⟩
      show (Action.ofQuery filter.query >>= _).Leads _ _ _
      rw [filter.query_eq]
      exact Action.Leads.bind (.pure _) (Action.Leads.bind (.report _) asked.bind_error)

/-- What a command answers and what it makes of a board. -/
inductive Step : Option Board → Command → Except CommandError String → Option Board → Prop
  | unready {command : Command} (other : command ≠ .init) (error : CommandError) :
      Step none command (.error error) none
  | create : Step none .init (.ok "initialized") (some empty)
  | again (board : Board) : Step (some board) .init (.ok "initialized") (some board)
  | addToList {board : Board} {list : TaskList} (listed : list ∈ board.lists)
      (name : String) (priority : Int64) (content : String) :
      Step (some board) (.add name list.name priority content)
        (.ok ("added #" ++ toString (board.items.length + 1) ++ " to " ++ list.name))
        (some (board.addItem
          ⟨.ofNat (board.items.length + 1), list, name, content, false, priority⟩))
  | addToNewList {board : Board} {list : String}
      (absent : ∀ other ∈ board.lists, other.name ≠ list)
      (name : String) (priority : Int64) (content : String) :
      Step (some board) (.add name list priority content)
        (.ok ("added #" ++ toString (board.items.length + 1) ++ " to " ++ list))
        (some ((board.addList ⟨.ofNat (board.lists.length + 1), list⟩).addItem
          ⟨.ofNat (board.items.length + 1), ⟨.ofNat (board.lists.length + 1), list⟩, name, content,
            false, priority⟩))
  | done {board : Board} {item : Item} (member : item ∈ board.items) :
      Step (some board) (.done item.id)
        (.ok ("done #" ++ toString item.id.toInt ++ " " ++ item.name))
        (some (board.setDone item.id))
  | missing {board : Board} {id : Int64} (absent : ∀ item ∈ board.items, item.id ≠ id) :
      Step (some board) (.done id) (.error (.noTask id)) (some board)
  | ls (board : Board) (filter : Filter) (asJson : Bool)
      (answer : Except CommandError String) :
      Step (some board) (.ls filter asJson) answer (some board)

inductive Run :
    Option Board → List Command → List (Except CommandError String) → Option Board → Prop
  | nil (board : Option Board) : Run board [] [] board
  | cons {before middle after : Option Board} {command : Command}
      {answer : Except CommandError String} {commands : List Command}
      {answers : List (Except CommandError String)}
      (first : Step before command answer middle) (rest : Run middle commands answers after) :
      Run before (command :: commands) (answer :: answers) after

def itemCount : Option Board → Nat
  | none => 0
  | some board => board.items.length

/-- An `add` that went through. -/
def hasAdded (command : Command) (answer : Except CommandError String) : Bool :=
  command.isAdd && answer.isOk

theorem Step.itemCount {before after : Option Board} {command : Command}
    {answer : Except CommandError String} (step : Step before command answer after) :
    Board.itemCount after = Board.itemCount before + if hasAdded command answer then 1 else 0 := by
  cases step with
  | unready other error => simp [hasAdded, Except.isOk, Except.toBool]
  | create => rfl
  | again board => rfl
  | addToList listed name priority content => simp [Board.itemCount, addItem]; rfl
  | addToNewList absent name priority content => simp [Board.itemCount, addItem, addList]; rfl
  | done member => simp [Board.itemCount, setDone, hasAdded, Command.isAdd]
  | missing absent => rfl
  | ls board filter asJson answer => rfl

theorem Run.itemCount {before after : Option Board} {commands : List Command}
    {answers : List (Except CommandError String)} (run : Run before commands answers after) :
    Board.itemCount after = Board.itemCount before +
      (commands.zip answers).countP fun pair => hasAdded pair.1 pair.2 := by
  induction run with
  | nil board => rfl
  | cons first rest induction =>
      rw [induction, first.itemCount, List.zip_cons_cons, List.countP_cons, Nat.add_assoc,
        Nat.add_comm (ite _ _ _)]

def HasRoom (board : Board) : Prop :=
  board.lists.length < lastNumber ∧ board.items.length < lastNumber

theorem setDone_of_absent {id : Int64} (absent : ∀ item ∈ board.items, item.id ≠ id) :
    board.setDone id = board := by
  have same : (board.items.map fun item =>
      if item.id = id then { item with done := true } else item) = board.items := by
    refine (List.map_congr_left fun item member => ?_).trans (List.map_id _)
    exact if_neg (absent item member)
  rw [setDone, same]

theorem toString_number {used : Nat} {id : Int64} (number : number? used = some id) :
    toString id.toInt = toString (used + 1) := by
  rw [toInt_number number]
  rfl

theorem number?_eq_none {used : Nat} : number? used = none ↔ ¬ used < lastNumber := by
  simp [number?]

theorem step_add {name list content : String} {priority : Int64} {known : TaskList}
    {after : Board} {id : Int64} (ensured : board.ensure list = some (known, after))
    (number : number? board.items.length = some id) :
    Step (some board) (.add name list priority content)
      (.ok ("added #" ++ toString id.toInt ++ " to " ++ list))
      (some (after.addItem ⟨id, known, name, content, false, priority⟩)) := by
  rw [toString_number number]
  obtain ⟨_, rfl⟩ := number?_eq_some.mp number
  unfold Board.ensure at ensured
  cases found : board.list? list with
  | some other =>
      rw [found] at ensured
      cases ensured
      obtain ⟨listed, rfl⟩ := list?_eq_some found
      exact .addToList listed name priority content
  | none =>
      rw [found] at ensured
      obtain ⟨_, listNumber, made⟩ := Option.map_eq_some_iff.mp ensured
      obtain ⟨_, rfl⟩ := number?_eq_some.mp listNumber
      cases made
      exact .addToNewList (list?_eq_none.mp found) name priority content

theorem ensure_of_hasRoom (room : board.HasRoom) (name : String) : board.ensure name ≠ none := by
  unfold Board.ensure
  cases board.list? name with
  | some known => simp
  | none => simp [number?, room.1]

theorem add_steps (consistent : board.Consistent) (name list : String) (priority : Int64)
    (content : String) :
    ∃ answer, (Command.runAdd name list priority content).Leads (board.database plan) answer
        ((board.add name list priority content).database plan) ∧
      (board.HasRoom → Step (some board) (.add name list priority content) answer
        (some (board.add name list priority content))) := by
  unfold Board.add
  cases ensured : board.ensure list with
  | none =>
      have listing := @ensureList_leads_full board plan consistent _ ensured
      exact ⟨_, listing.bind_error, fun room => absurd ensured (ensure_of_hasRoom room list)⟩
  | some pair =>
      obtain ⟨known, after⟩ := pair
      obtain ⟨_, _, _, same⟩ := consistent.ensure ensured
      cases number : number? after.items.length with
      | none =>
          simp only [number]
          refine ⟨_, runAdd_leads_full consistent ensured number, fun room => ?_⟩
          rw [same, number?_eq_none] at number
          exact absurd room.2 number
      | some id =>
          simp only [number]
          refine ⟨_, runAdd_leads consistent ensured number, fun _ => ?_⟩
          exact step_add ensured (same ▸ number)

theorem done_steps (consistent : board.Consistent) (id : Int64) :
    ∃ answer, (Command.runDone id).Leads (board.database plan) answer
        ((board.setDone id).database plan) ∧
      Step (some board) (.done id) answer (some (board.setDone id)) := by
  cases found : board.items.find? (·.id = id) with
  | none =>
      have absent : ∀ item ∈ board.items, item.id ≠ id := by
        simpa using List.find?_eq_none.mp found
      rw [setDone_of_absent absent]
      exact ⟨_, runDone_leads_missing consistent found, .missing absent⟩
  | some item =>
      have member := List.mem_of_find?_eq_some found
      obtain rfl : item.id = id := by simpa using List.find?_some found
      exact ⟨_, runDone_leads consistent found, .done member⟩

/-- A command does to the database what the next board is. -/
theorem run_steps {start : Option Board} (consistent : ∀ board ∈ start, board.Consistent)
    (command : Command) :
    ∃ answer, command.run.Leads (stored plan start) answer (stored plan (next start command)) ∧
      ((command.isAdd = true → ∀ board ∈ start, board.HasRoom) →
        Step start command answer (next start command)) := by
  cases start with
  | none =>
      by_cases first : command = .init
      · subst first
        exact ⟨_, runInit_leads createTables_empty, fun _ => .create⟩
      · obtain ⟨error, failed⟩ := run_leads_empty first
        have still : next none command = none := by
          cases command with
          | init => exact absurd rfl first
          | _ => rfl
        rw [still]
        exact ⟨_, failed, fun _ => .unready first error⟩
  | some board =>
      cases command with
      | init => exact ⟨_, runInit_leads board.createTables_database, fun _ => .again board⟩
      | add name list priority content =>
          obtain ⟨answer, leads, step⟩ :=
            add_steps (consistent board rfl) name list priority content
          exact ⟨answer, leads, fun room => step (room rfl board rfl)⟩
      | done id =>
          obtain ⟨answer, leads, step⟩ := done_steps (consistent board rfl) id
          exact ⟨answer, leads, fun _ => step⟩
      | ls filter asJson =>
          obtain ⟨answer, leads⟩ := runLs_keeps (board.database plan) filter asJson
          exact ⟨answer, leads, fun _ => .ls board filter asJson answer⟩

def Fits (size : Nat) (start : Option Board) : Prop :=
  ∀ board ∈ start, board.lists.length ≤ size ∧ board.items.length ≤ size

theorem Fits.ensure {size : Nat} (fits : Fits size (some board)) {name : String}
    {list : TaskList} {after : Board} (ensured : board.ensure name = some (list, after)) :
    after.lists.length ≤ size + 1 ∧ after.items.length ≤ size := by
  obtain ⟨lists, items⟩ := fits board rfl
  unfold Board.ensure at ensured
  cases found : board.list? name with
  | some known =>
      rw [found] at ensured
      cases ensured
      omega
  | none =>
      rw [found] at ensured
      obtain ⟨id, _, made⟩ := Option.map_eq_some_iff.mp ensured
      cases made
      simp only [addList, List.length_append, List.length_singleton]
      omega

theorem Fits.add {size : Nat} (fits : Fits size (some board)) (name list : String)
    (priority : Int64) (content : String) :
    Fits (size + 1) (some (board.add name list priority content)) := by
  obtain ⟨lists, items⟩ := fits board rfl
  intro after same
  cases same
  unfold Board.add
  split
  · rename_i known after ensured
    obtain ⟨lists, items⟩ := fits.ensure ensured
    split
    · simp only [addItem, List.length_append, List.length_singleton]
      omega
    · exact ⟨lists, by omega⟩
  · omega

theorem Fits.next {size : Nat} {start : Option Board} (fits : Fits size start)
    (command : Command) :
    Fits (size + if command.isAdd then 1 else 0) (Board.next start command) := by
  cases start with
  | none =>
      cases command with
      | init =>
          intro board same
          cases same
          simp [Board.empty]
      | _ => exact fun _ same => by cases same
  | some board =>
      cases command with
      | add name list priority content => exact fits.add name list priority content
      | init => exact fits
      | ls filter asJson => exact fits
      | done id =>
          intro after same
          cases same
          simpa [setDone, Command.isAdd] using fits board rfl

end Board

namespace Session

variable {plan : Sql.Plan}

def perform (s : Session) (command : Command) : Except CommandError String × Session :=
  command.run.run.run s

theorem perform_of_leads {s : Session} {command : Command} {before after : Sql.Database}
    {answer : Except CommandError String} (leads : command.run.Leads before answer after)
    (held : s.database = before) :
    (s.perform command).1 = answer ∧ (s.perform command).2.database = after := by
  subst held
  obtain ⟨reported, ran⟩ := leads s.events
  have ran : s.perform command = (answer, ⟨after, s.events ++ reported⟩) := ran
  rw [ran]
  exact ⟨rfl, rfl⟩

def runAll (s : Session) : List Command → List (Except CommandError String) × Session
  | [] => ([], s)
  | command :: rest =>
      let (answer, s) := s.perform command
      let (answers, s) := s.runAll rest
      (answer :: answers, s)

theorem runAll_steps (commands : List Command) {start : Option Board} {size : Nat}
    (consistent : ∀ board ∈ start, board.Consistent) (fits : Board.Fits size start) {s : Session}
    (held : s.database = Board.stored plan start) :
    (s.runAll commands).2.database = Board.stored plan (commands.foldl Board.next start) ∧
      (size + commands.countP Command.isAdd ≤ Board.lastNumber →
        Board.Run start commands (s.runAll commands).1 (commands.foldl Board.next start)) := by
  -- `size` bounds the lists as well, since a command adds at most one of them with its item.
  induction commands generalizing start size s with
  | nil => exact ⟨held, fun _ => .nil start⟩
  | cons command rest induction =>
      obtain ⟨answer, leads, step⟩ := Board.run_steps consistent command
      obtain ⟨answered, changed⟩ := perform_of_leads leads held
      have kept := Board.Consistent.foldl consistent [command]
      obtain ⟨database, run⟩ := induction kept (fits.next command) changed
      refine ⟨database, fun few => ?_⟩
      rw [List.countP_cons] at few
      show Board.Run start _ ((s.perform command).1 :: _) _
      rw [answered]
      refine .cons (step fun adds board same => ?_) (run (by omega))
      obtain ⟨lists, items⟩ := fits board same
      rw [if_pos adds] at few
      exact ⟨by omega, by omega⟩

/-- From an empty database on, each command answers and stores what its step says: nothing before
the first `init`, and from then on a board with as many items as there were added. -/
theorem runAll_refines (commands : List Command)
    (few : commands.countP Command.isAdd < 2 ^ 63 - 1) (s : Session)
    (fresh : s.database = .empty plan) :
    Board.Run none commands (s.runAll commands).1 (Board.after commands) ∧
      (s.runAll commands).2.database = Board.stored plan (Board.after commands) ∧
      ∀ board ∈ Board.after commands, board.Consistent ∧
        board.items.length = (commands.zip (s.runAll commands).1).countP fun pair =>
          Board.hasAdded pair.1 pair.2 := by
  have absent : ∀ board ∈ (none : Option Board), board.Consistent := by simp
  have fits : Board.Fits 0 none := fun board same => by cases same
  obtain ⟨database, run⟩ := runAll_steps commands absent fits fresh
  have run := run (by rw [Board.lastNumber]; omega)
  refine ⟨run, database, fun board reached => ⟨.after reached, ?_⟩⟩
  have counted := run.itemCount
  rw [show commands.foldl Board.next none = some board from reached] at counted
  simpa [Board.itemCount] using counted

def chores : List Command :=
  [.done 1, .init, .add "Buy milk" "Home" 2 "", .add "Call ?" "Work" 0 "100%", .init, .done 2,
    .done 3, .ls {} true, .add "Rent" "Home" (-1) "due"]

theorem runAll_refines_chores :
    chores.countP Command.isAdd < 2 ^ 63 - 1 ∧ inMemory.database = .empty ∧
      Board.Run none chores (inMemory.runAll chores).1 (Board.after chores) ∧
      (inMemory.runAll chores).2.database = Board.stored .indexed (Board.after chores) ∧
      ∀ board ∈ Board.after chores, board.Consistent ∧
        board.items.length = (chores.zip (inMemory.runAll chores).1).countP fun pair =>
          Board.hasAdded pair.1 pair.2 := by
  have few : chores.countP Command.isAdd < 2 ^ 63 - 1 := by decide
  exact ⟨few, rfl, runAll_refines chores few inMemory rfl⟩

end Session

end Criteria.Tasks
