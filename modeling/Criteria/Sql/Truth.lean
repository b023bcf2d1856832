namespace Criteria.Sql

inductive Truth
  | no
  | unknown
  | yes
  deriving DecidableEq

namespace Truth

def ofBool : Bool → Truth
  | true => yes
  | false => no

def not : Truth → Truth
  | no => yes
  | unknown => unknown
  | yes => no

/-- The less certain to hold of the two. -/
def and : Truth → Truth → Truth
  | no, _ => no
  | _, no => no
  | yes, b => b
  | a, yes => a
  | unknown, unknown => unknown

def or : Truth → Truth → Truth
  | yes, _ => yes
  | _, yes => yes
  | no, b => b
  | a, no => a
  | unknown, unknown => unknown

/-- Whether one of the truths holds; nothing holds of none. -/
def any (truths : List Truth) : Truth :=
  truths.foldr or no

@[simp] theorem not_not (a : Truth) : a.not.not = a := by
  cases a <;> rfl

@[simp] theorem not_ofBool (b : Bool) : (ofBool b).not = ofBool (!b) := by
  cases b <;> rfl

theorem and_assoc (a b c : Truth) : (a.and b).and c = a.and (b.and c) := by
  cases a <;> cases b <;> cases c <;> rfl

theorem or_assoc (a b c : Truth) : (a.or b).or c = a.or (b.or c) := by
  cases a <;> cases b <;> cases c <;> rfl

end Truth

end Criteria.Sql
