import Criteria.CommandLine.Invocation
import Criteria.Proofs.CommandLine.Values

namespace Criteria.CommandLine

/-- What is attached to the name of an option. -/
def attachment : Option String → List Char
  | some text => '=' :: text.toList
  | none => []

namespace Reading

variable {r settled : Reading} {level : Level} {slot : Slot} {setting : Setting}
  {name text : String}

def give (r : Reading) (given : List (Slot × Setting)) : Reading :=
  { r with given := r.given ++ given }

theorem settle_of_closed (closed : r.pending = none) : r.settle = .ok r := by
  rw [settle, closed]

theorem set_of_takes (takes : slot.kind.Takes setting) (fresh : r.get? slot = none) :
    r.set slot (setting.text?.getD "") = .ok (r.give [(slot, setting)]) := by
  rw [set, fresh, takes.read]
  rfl

theorem settle_of_takes (slot : Slot) {given : List (Slot × Setting)} (met : Bool)
    (takes : slot.kind.Takes setting) (fresh : given.lookup slot = none) :
    settle ⟨given, some ⟨slot, setting.text?.getD ""⟩, met⟩ =
      .ok ⟨given ++ [(slot, setting)], none, met⟩ :=
  set_of_takes (r := ⟨given, none, met⟩) takes fresh

theorem long_attached (known : level.long? name = some slot) (takes : slot.takesValue = true)
    (settles : r.settle = .ok settled) (text : String) :
    r.long level name (some text) = settled.set slot text := by
  unfold long
  rw [known]
  refine (if_pos takes).trans ?_
  rw [attach, settles]
  rfl

theorem long_awaiting (known : level.long? name = some slot) (takes : slot.takesValue = true)
    (settles : r.settle = .ok settled) :
    r.long level name none = .ok { settled with pending := some ⟨slot, none⟩ } := by
  unfold long
  rw [known]
  refine (if_pos takes).trans ?_
  rw [await, settles]
  rfl

theorem long_flag (known : level.long? name = some slot) (flag : slot.takesValue = false)
    (plain : slot ≠ .help ∧ slot ≠ .version) (settles : r.settle = .ok settled) :
    r.long level name none = settled.set slot "" := by
  unfold long
  rw [known]
  refine (if_neg (by simp [flag])).trans ?_
  rw [Reading.flag, settles]
  cases slot with
  | help => exact absurd rfl plain.1
  | version => exact absurd rfl plain.2
  | _ => rfl

/-- The name ends at the first equals sign, however many the value has. -/
theorem argument_long {value : Option String}
    (written : text.toList = '-' :: '-' :: (name.toList ++ attachment value))
    (plain : '=' ∉ name.toList) : r.argument level text = r.long level name value := by
  have inside : ∀ c ∈ name.toList, decide (c ≠ '=') = true := fun c member =>
    decide_eq_true fun equals => plain (equals ▸ member)
  have front : (name.toList ++ attachment value).takeWhile (· ≠ '=') = name.toList := by
    rw [List.takeWhile_append_of_pos inside]
    cases value <;> simp [attachment]
  have back : (name.toList ++ attachment value).dropWhile (· ≠ '=') = attachment value := by
    rw [List.dropWhile_append_of_pos inside]
    cases value <;> simp [attachment]
  rw [argument, written]
  simp only [front, back, String.ofList_toList]
  cases value <;> simp only [attachment, String.ofList_toList]

/-- What does not begin with a hyphen is a value if there is an option that waits for it. -/
theorem argument_value (plain : text.toList.head? ≠ some '-')
    (waits : r.pending = some ⟨slot, none⟩) :
    r.argument level text = .ok { r with pending := some ⟨slot, some text⟩ } := by
  rw [argument]
  split
  case h_1 written => simp [written] at plain
  case h_2 written => simp [written] at plain
  case h_3 => rw [waits]

theorem argument_positional (plain : text.toList.head? ≠ some '-') (waits : r.isAwaiting = false) :
    r.argument level text = r.positional level false text := by
  rw [argument]
  split
  case h_1 written => simp [written] at plain
  case h_2 written => simp [written] at plain
  case h_3 =>
    split
    case h_1 pending => simp [isAwaiting, pending] at waits
    case h_2 => rfl

theorem short?_of_isDigit {c : Char} (digit : c.isDigit = true) : level.short? c = none := by
  have letters : (level.spellings.all fun spelling => spelling.short.all (!·.isDigit)) = true := by
    cases level <;> rfl
  rw [Level.short?, Option.map_eq_none_iff, List.find?_eq_none]
  intro spelling member same
  have short : spelling.short = some c := by simpa using same
  have letter := List.all_eq_true.mp letters spelling member
  rw [short, Option.all_some, digit] at letter
  cases letter

/-- A hyphen and a digit name no option, and no option takes them for its value. -/
theorem argument_negative {c : Char} {rest : List Char} (written : text.toList = '-' :: c :: rest)
    (digit : c.isDigit = true) : r.argument level text = .error .unknownArgument := by
  rw [argument, written]
  split
  case h_1 same =>
    cases same
    exact absurd digit (by decide)
  case h_2 same =>
    cases same
    rw [cluster, short?_of_isDigit digit]
  case h_3 other => exact absurd rfl (other c rest)

theorem positional_of_settle (takes : level.positional? = some slot)
    (settles : r.settle = .ok settled) (unmet : r.positionalMet = false) (behindDashes : Bool) :
    r.positional level behindDashes text =
      .ok { settled with pending := some ⟨slot, some text⟩, positionalMet := true } := by
  rw [positional, takes]
  simp only [unmet, settles]
  rfl

theorem readAll_cons (dashes : text ≠ "--")
    (unnamed : level = .top → text ≠ "help" ∧ Level.ofName? text = none) (rest : List String) :
    readAll level false r (text :: rest) =
      (r.argument level text).bind fun r => readAll level false r rest := by
  rw [readAll, if_neg (by simp), if_neg fun top => (unnamed top.1).1 top.2.2,
    if_neg fun top => by simp [(unnamed top.1).2] at top, if_neg dashes]
  rfl

theorem readAll_dashes (level : Level) (rest : List String) :
    readAll level false r ("--" :: rest) = readAll level true r rest := by
  rw [readAll, if_neg (by decide), if_neg (by simp), if_neg (by simp [Level.ofName?]), if_pos rfl]

/-- Behind dashes whatever stands there is the positional. -/
theorem readAll_positional (takes : level.positional? = some slot)
    (settles : r.settle = .ok settled) (unmet : r.positionalMet = false) (text : String) :
    readAll level false r ["--", text] =
      .ok ({ settled with pending := some ⟨slot, some text⟩, positionalMet := true }, none) := by
  rw [readAll_dashes, readAll, if_pos rfl, positional_of_settle takes settles unmet]
  rfl

theorem readAll_name (named : Level.ofName? name = some level) (closed : r.pending = none)
    (rest : List String) : readAll .top false r (name :: rest) = .ok (r, some (level, rest)) := by
  have help : name ≠ "help" := by
    rintro rfl
    simp [Level.ofName?] at named
  have ready : r.isAwaiting = false := by rw [isAwaiting, closed]
  rw [readAll, if_neg (by decide), if_neg (fun top => help top.2.2),
    if_pos ⟨rfl, by simp [ready], by simp [named]⟩, named]
  rfl

theorem finish_of_settle (settles : r.settle = .ok settled) {environment : Option String}
    (usable : environment ≠ some "") : r.finish environment = .ok settled := by
  rw [finish, settles]
  cases environment with
  | none => rfl
  | some text =>
    have path : Setting.read Slot.db.kind text = .ok (.text text) :=
      (Kind.Takes.path fun empty => usable (congrArg some empty)).read
    show (if !settled.has .db then _ else _) = Except.ok settled
    rw [path]
    exact ite_self _

end Reading

namespace Invocation

variable {arguments rest : List String} {environment : Option String} {outer : Reading}
  {level : Level}

theorem ofArguments_of_levels {last inner : Reading} {command : Tasks.Command}
    (front : Reading.readAll .top false {} arguments = .ok (outer, some (level, rest)))
    (back : Reading.readAll level false {} rest = .ok (last, none))
    (closed : outer.pending = none) (settles : last.settle = .ok inner)
    (read : inner.command level = .ok command) (usable : environment ≠ some "") :
    ofArguments environment arguments =
      .ok ⟨database outer inner environment, outer.has .verbose || inner.has .verbose,
        command⟩ := by
  unfold ofArguments
  rw [front]
  show (Reading.readAll _ _ _ _).bind _ = _
  rw [back]
  show (last.finish environment).bind _ = _
  rw [Reading.finish_of_settle settles usable]
  show (inner.command level).bind _ = _
  rw [read]
  show (outer.finish environment).bind _ = _
  rw [Reading.finish_of_settle (Reading.settle_of_closed closed) usable]
  rfl

theorem ofArguments_of_error {error : UsageError}
    (front : Reading.readAll .top false {} arguments = .ok (outer, some (level, rest)))
    (back : Reading.readAll level false {} rest = .error error) :
    ofArguments environment arguments = .error error := by
  unfold ofArguments
  rw [front]
  show (Reading.readAll _ _ _ _).bind _ = _
  rw [back]
  rfl

end Invocation

end Criteria.CommandLine
