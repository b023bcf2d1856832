import Criteria.Tasks.Model

namespace Criteria.Tasks

def rightAligned (width : Nat) (text : String) : String :=
  String.ofList (List.replicate (width - text.length) ' ' ++ text.toList)

/-- A priority of zero is not shown. -/
def Task.line (task : Task) (list : String) : String :=
  rightAligned 4 (toString task.id.toInt) ++ " [" ++ (if task.done then "x" else " ") ++ "] " ++
    task.name ++
    (if task.priority = 0 then "" else " !" ++ toString task.priority.toInt) ++
    " @" ++ list

/-- The name of the list with the id, or a question mark where there is none. -/
def listName (lists : List TaskList) (id : Int64) : String :=
  match lists.find? (·.id == id) with
  | some list => list.name
  | none => "?"

def lines (tasks : List Task) (lists : List TaskList) : String :=
  "\n".intercalate (tasks.map fun task => task.line (listName lists task.listId))

/-- Only the quote, the backslash and control characters below the space are escaped. -/
def jsonEscape (c : Char) : List Char :=
  if c = '"' then ['\\', '"']
  else if c = '\\' then ['\\', '\\']
  else if c = '\x08' then ['\\', 'b']
  else if c = '\t' then ['\\', 't']
  else if c = '\n' then ['\\', 'n']
  else if c = '\x0c' then ['\\', 'f']
  else if c = '\r' then ['\\', 'r']
  else if c.toNat < 0x20 then
    let digits := Nat.toDigits 16 c.toNat
    ['\\', 'u'] ++ List.replicate (4 - digits.length) '0' ++ digits
  else [c]

def jsonText (text : String) : String :=
  String.ofList ('"' :: text.toList.flatMap jsonEscape ++ ['"'])

def Task.jsonFields (task : Task) : List (String × String) :=
  [("id", toString task.id.toInt),
    ("list_id", toString task.listId.toInt),
    ("name", jsonText task.name),
    ("content", jsonText task.content),
    ("done", if task.done then "true" else "false"),
    ("priority", toString task.priority.toInt)]

def Task.json (task : Task) : String :=
  "  \x7b\n" ++
    ",\n".intercalate (task.jsonFields.map fun (key, value) =>
      "    " ++ jsonText key ++ ": " ++ value) ++
    "\n  \x7d"

def json (tasks : List Task) : String :=
  if tasks.isEmpty then "[]"
  else "[\n" ++ ",\n".intercalate (tasks.map Task.json) ++ "\n]"

end Criteria.Tasks
