import Criteria.CommandLine.Setting

/-!
Reading of the arguments of one level, from left to right. A value that is an argument of its own is
settled when the next option or positional is met or the level ends.
-/

namespace Criteria.CommandLine

/-- An option that has been met; its value follows where there is none yet. -/
structure Pending where
  slot : Slot
  value : Option String
  deriving DecidableEq

structure Reading where
  given : List (Slot × Setting) := []
  pending : Option Pending := none
  positionalMet : Bool := false
  deriving DecidableEq

namespace Reading

def get? (r : Reading) (slot : Slot) : Option Setting :=
  r.given.lookup slot

/-- Nothing is given twice at one level. -/
def set (r : Reading) (slot : Slot) (text : String) : Except UsageError Reading := do
  if (r.get? slot).isSome then throw .argumentConflict
  let setting ← Setting.read slot.kind text
  return { r with given := r.given ++ [(slot, setting)] }

def settle (r : Reading) : Except UsageError Reading :=
  match r.pending with
  | none => .ok r
  | some ⟨_, none⟩ => .error .invalidValue
  | some ⟨slot, some text⟩ => { r with pending := none }.set slot text

def isAwaiting (r : Reading) : Bool :=
  match r.pending with
  | some ⟨_, none⟩ => true
  | _ => false

def attach (r : Reading) (slot : Slot) (text : String) : Except UsageError Reading := do
  (← r.settle).set slot text

def await (r : Reading) (slot : Slot) : Except UsageError Reading := do
  return { ← r.settle with pending := some ⟨slot, none⟩ }

def flag (r : Reading) (slot : Slot) : Except UsageError Reading := do
  let r ← r.settle
  match slot with
  | .help => throw .help
  | .version => throw .version
  | slot => r.set slot ""

def long (r : Reading) (level : Level) (name : String) (value : Option String) :
    Except UsageError Reading :=
  match level.long? name, value with
  | none, _ => .error .unknownArgument
  | some slot, some text => if slot.takesValue then r.attach slot text else .error .tooManyValues
  | some slot, none => if slot.takesValue then r.await slot else r.flag slot

/-- Flags can be followed by further letters, any other option by its value. -/
def cluster (level : Level) (r : Reading) : List Char → Except UsageError Reading
  | [] => .ok r
  | c :: rest =>
      match level.short? c with
      | none => .error .unknownArgument
      | some slot =>
          if slot.takesValue then
            match rest with
            | [] => r.await slot
            | '=' :: text => r.attach slot (String.ofList text)
            | text => r.attach slot (String.ofList text)
          else do cluster level (← r.flag slot) rest

def positional (r : Reading) (level : Level) (behindDashes : Bool) (text : String) :
    Except UsageError Reading := do
  match level.positional? with
  | some slot =>
      if r.positionalMet then throw .unknownArgument
      return { ← r.settle with pending := some ⟨slot, some text⟩, positionalMet := true }
  | none =>
      if level = .top ∧ !behindDashes then throw .invalidSubcommand
      throw .unknownArgument

/-- An argument that is no command's name, before any `--`. -/
def argument (r : Reading) (level : Level) (text : String) : Except UsageError Reading :=
  match text.toList with
  | '-' :: '-' :: rest =>
      let name := rest.takeWhile (· ≠ '=')
      let value :=
        match rest.dropWhile (· ≠ '=') with
        | _ :: value => some (String.ofList value)
        | [] => none
      r.long level (String.ofList name) value
  | '-' :: c :: rest => cluster level r (c :: rest)
  | _ =>
      match r.pending with
      | some ⟨slot, none⟩ => .ok { r with pending := some ⟨slot, some text⟩ }
      | _ => r.positional level false text

/-- `help` names commands, each below the one before it. -/
def helpOn : List String → UsageError
  | [] => .help
  | [name] => if name = "help" ∨ (Level.ofName? name).isSome then .help else .invalidSubcommand
  | _ => .invalidSubcommand

/-- Reads up to the name of a command, if there is one, and leaves what stands behind it. -/
def readAll (level : Level) (behindDashes : Bool) (r : Reading) :
    List String → Except UsageError (Reading × Option (Level × List String))
  | [] => .ok (r, none)
  | text :: rest =>
      if behindDashes then do
        readAll level true (← r.positional level true text) rest
      else if level = .top ∧ !r.isAwaiting ∧ text = "help" then .error (helpOn rest)
      else if level = .top ∧ !r.isAwaiting ∧ (Level.ofName? text).isSome then
        .ok (r, (Level.ofName? text).map (·, rest))
      else if text = "--" then readAll level true r rest
      else do readAll level false (← r.argument level text) rest

end Reading

end Criteria.CommandLine
