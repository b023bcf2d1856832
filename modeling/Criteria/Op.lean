namespace Criteria

inductive Comparison
  | eq
  | ge
  | le
  | gt
  | lt
  | like
  | member
  deriving DecidableEq

namespace Comparison

def all : List Comparison :=
  [eq, ge, le, gt, lt, like, member]

def symbol : Comparison → String
  | eq => "="
  | ge => ">="
  | le => "<="
  | gt => ">"
  | lt => "<"
  | like => "LIKE"
  | member => "IN"

def name : Comparison → String
  | eq => "EQ"
  | ge => "GE"
  | le => "LE"
  | gt => "GT"
  | lt => "LT"
  | like => "LIKE"
  | member => "IN"

end Comparison

structure Op where
  comparison : Comparison
  negated : Bool
  deriving DecidableEq

namespace Op

def plain (comparison : Comparison) : Op :=
  ⟨comparison, false⟩

def all : List Op :=
  Comparison.all.map (⟨·, false⟩) ++ Comparison.all.map (⟨·, true⟩)

def isMembership (op : Op) : Bool :=
  op.comparison = .member

def base (op : Op) : Op :=
  plain op.comparison

def negate (op : Op) : Op :=
  ⟨op.comparison, !op.negated⟩

/-- A negated operator keeps its comparison's symbol. -/
def symbol (op : Op) : String :=
  op.comparison.symbol

def name (op : Op) : String :=
  if op.negated then "NOT_" ++ op.comparison.name else op.comparison.name

def ofName? (name : String) : Option Op :=
  all.find? (·.name == name)

@[simp] theorem negate_negate (op : Op) : op.negate.negate = op := by
  cases op
  simp [negate]

@[simp] theorem base_negate (op : Op) : op.negate.base = op.base := rfl

@[simp] theorem isMembership_negate (op : Op) : op.negate.isMembership = op.isMembership := rfl

@[simp] theorem symbol_negate (op : Op) : op.negate.symbol = op.symbol := rfl

end Op

end Criteria
