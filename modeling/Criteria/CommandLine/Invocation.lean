import Criteria.CommandLine.Reading
import Criteria.Tasks.Command

namespace Criteria.CommandLine

structure Invocation where
  db : String
  verbose : Bool
  command : Tasks.Command
  deriving DecidableEq

def defaultDatabase : String :=
  "tdoo.db"

def defaultList : String :=
  "Inbox"

namespace Reading

def text? (r : Reading) (slot : Slot) : Option String :=
  match r.get? slot with
  | some (.text s) => some s
  | _ => none

def integer? (r : Reading) (slot : Slot) : Option Int64 :=
  match r.get? slot with
  | some (.integer n) => some n
  | _ => none

def count? (r : Reading) (slot : Slot) : Option UInt64 :=
  match r.get? slot with
  | some (.count n) => some n
  | _ => none

def has (r : Reading) (slot : Slot) : Bool :=
  (r.get? slot).isSome

/-- Ends a level. A database named by the environment has to be a path even where it is not used. -/
def finish (r : Reading) (environment : Option String) : Except UsageError Reading := do
  let r ← r.settle
  match environment with
  | some text =>
      if !r.has .db then
        let _ ← Setting.read Slot.db.kind text
  | none => pure ()
  return r

def command (r : Reading) : Level → Except UsageError Tasks.Command
  | .top => .error .missingSubcommand
  | .init => .ok .init
  | .add =>
      match r.text? .name with
      | some name =>
          .ok (.add name ((r.text? .list).getD defaultList) ((r.integer? .priority).getD 0)
            ((r.text? .content).getD ""))
      | none => .error .missingRequiredArgument
  | .done =>
      match r.integer? .id with
      | some id => .ok (.done id)
      | none => .error .missingRequiredArgument
  | .ls =>
      .ok (.ls
        { list := r.text? .list
          all := r.has .all
          minPriority := r.integer? .minPriority
          search := r.text? .search
          limit := r.count? .limit }
        (r.has .json))

end Reading

namespace Invocation

/-- A database named behind the command wins over one named before it, and both over the
environment's. -/
def database (outer inner : Reading) (environment : Option String) : String :=
  ((inner.text? .db).or ((outer.text? .db).or environment)).getD defaultDatabase

def ofArguments (environment : Option String) (arguments : List String) :
    Except UsageError Invocation := do
  let (outer, command) ← Reading.readAll .top false {} arguments
  match command with
  | some (level, rest) =>
      let (inner, _) ← Reading.readAll level false {} rest
      let inner ← inner.finish environment
      let command ← inner.command level
      let outer ← outer.finish environment
      return {
        db := database outer inner environment
        verbose := outer.has .verbose || inner.has .verbose
        command }
  | none =>
      let outer ← outer.finish environment
      if outer.given.isEmpty && environment.isNone then throw .helpOnMissing
      throw .missingSubcommand

end Invocation

end Criteria.CommandLine
