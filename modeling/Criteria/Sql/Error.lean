namespace Criteria.Sql

inductive Constraint
  | required (column : String)
  | unique (column : String)
  | key
  | reference (column : String)
  deriving DecidableEq

inductive Failure
  | malformed
  | noTable (name : String)
  | noColumn (name : String)
  | tableExists (name : String)
  | columnTwice (table : String)
  | columnCount (expected actual : Nat)
  | argumentCount (expected actual : Nat)
  | mismatch
  | readOnly
  | full
  | violated (constraint : Constraint)
  deriving DecidableEq

namespace Constraint

def message : Constraint → String
  | required column => "a value is required for " ++ column
  | unique column => "the value exists already in " ++ column
  | key => "the key is not a new integer"
  | reference column => "the reference fails in " ++ column

end Constraint

namespace Failure

def message : Failure → String
  | malformed => "malformed statement"
  | noTable name => "no such table: " ++ name
  | noColumn name => "no such column: " ++ name
  | tableExists name => "the table exists already: " ++ name
  | columnTwice table => "columns with the same name in " ++ table
  | columnCount expected actual =>
      toString expected ++ " columns expected, got " ++ toString actual
  | argumentCount expected actual =>
      toString expected ++ " arguments expected, got " ++ toString actual
  | mismatch => "datatype mismatch"
  | readOnly => "the database is read-only"
  | full => "no keys are left"
  | violated constraint => constraint.message

end Failure

end Criteria.Sql
