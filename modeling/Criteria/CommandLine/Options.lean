namespace Criteria.CommandLine

inductive UsageError
  | invalidValue
  | unknownArgument
  | invalidSubcommand
  | argumentConflict
  | tooManyValues
  | valueValidation
  | missingRequiredArgument
  | missingSubcommand
  | helpOnMissing
  | help
  | version
  deriving DecidableEq

def UsageError.name : UsageError → String
  | invalidValue => "InvalidValue"
  | unknownArgument => "UnknownArgument"
  | invalidSubcommand => "InvalidSubcommand"
  | argumentConflict => "ArgumentConflict"
  | tooManyValues => "TooManyValues"
  | valueValidation => "ValueValidation"
  | missingRequiredArgument => "MissingRequiredArgument"
  | missingSubcommand => "MissingSubcommand"
  | helpOnMissing => "DisplayHelpOnMissingArgumentOrSubcommand"
  | help => "DisplayHelp"
  | version => "DisplayVersion"

inductive Slot
  | db
  | verbose
  | help
  | version
  | name
  | list
  | priority
  | content
  | id
  | all
  | minPriority
  | search
  | limit
  | json
  deriving DecidableEq

inductive Kind
  | path
  | text
  | integer
  | count
  | flag
  deriving DecidableEq

def Slot.kind : Slot → Kind
  | db => .path
  | name => .text
  | list => .text
  | content => .text
  | search => .text
  | priority => .integer
  | minPriority => .integer
  | id => .integer
  | limit => .count
  | _ => .flag

def Slot.takesValue (slot : Slot) : Bool :=
  slot.kind ≠ .flag

/-- What stands in front of the command's name, and what behind each name. -/
inductive Level
  | top
  | init
  | add
  | done
  | ls
  deriving DecidableEq

structure Spelling where
  slot : Slot
  long : String
  short : Option Char

namespace Level

def everywhere : List Spelling :=
  [⟨.db, "db", none⟩, ⟨.verbose, "verbose", some 'v'⟩, ⟨.help, "help", some 'h'⟩]

def spellings : Level → List Spelling
  | top => everywhere ++ [⟨.version, "version", some 'V'⟩]
  | init => everywhere
  | add => everywhere ++
      [⟨.list, "list", some 'l'⟩, ⟨.priority, "priority", some 'p'⟩,
        ⟨.content, "content", some 'c'⟩]
  | done => everywhere
  | ls => everywhere ++
      [⟨.list, "list", some 'l'⟩, ⟨.all, "all", some 'a'⟩, ⟨.minPriority, "min-priority", none⟩,
        ⟨.search, "search", some 's'⟩, ⟨.limit, "limit", some 'n'⟩, ⟨.json, "json", none⟩]

def long? (level : Level) (name : String) : Option Slot :=
  (level.spellings.find? (·.long == name)).map Spelling.slot

def short? (level : Level) (c : Char) : Option Slot :=
  (level.spellings.find? (·.short == some c)).map Spelling.slot

/-- What is written without a name. It has to be given. -/
def positional? : Level → Option Slot
  | add => some .name
  | done => some .id
  | _ => none

def ofName? : String → Option Level
  | "init" => some init
  | "add" => some add
  | "done" => some done
  | "ls" => some ls
  | _ => none

end Level

end Criteria.CommandLine
