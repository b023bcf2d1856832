import Criteria.CommandLine.Invocation

open Criteria

def showEvent (event : Event) : IO Unit :=
  IO.eprintln (event.level.name ++ " " ++ event.message ++
    String.join (event.fields.map fun (name, value) => " " ++ name ++ "=" ++ value))

def isShown (verbose : Bool) (event : Event) : Bool :=
  match event.level with
  | .trace => false
  | .warn => true
  | _ => verbose

def main (arguments : List String) : IO UInt32 := do
  match CommandLine.Invocation.ofArguments (← IO.getEnv "TDOO_DB") arguments with
  | .error error =>
      IO.eprintln ("error: " ++ error.name)
      return if error = .help ∨ error = .version then 0 else 2
  | .ok invocation =>
      match Tasks.Session.openPath invocation.db with
      | .error error =>
          IO.eprintln ("Error: " ++ error.message)
          return 1
      | .ok session =>
          let (result, session) := (invocation.command.run).run.run session
          (session.events.filter (isShown invocation.verbose)).forM showEvent
          match result with
          | .ok text =>
              if !text.isEmpty then IO.println text
              return 0
          | .error error =>
              IO.eprintln ("Error: " ++ error.message)
              return 1
