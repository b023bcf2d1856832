/-!
Binary64 numbers by their bit patterns. Every finite one is a whole number of units of `2 ^ -1074`,
so sizes are compared exactly, in `Nat` and `Int`.
-/

namespace Criteria

structure Binary64 where
  bits : UInt64
  deriving DecidableEq, Inhabited

namespace Binary64

/-- The number without its sign. Magnitudes are ordered as the sizes that they stand for. -/
def magnitude (x : Binary64) : Nat :=
  x.bits.toNat % Nat.pow 2 63

def negative (x : Binary64) : Bool :=
  Nat.pow 2 63 ≤ x.bits.toNat

/-- The magnitude of the infinities; those above it are not numbers. -/
def infinity : Nat :=
  2047 * Nat.pow 2 52

def isFinite (x : Binary64) : Bool :=
  x.magnitude < infinity

def isNaN (x : Binary64) : Bool :=
  infinity < x.magnitude

def isZero (x : Binary64) : Bool :=
  x.magnitude = 0

def ofMagnitude (negative : Bool) (magnitude : Nat) : Binary64 :=
  ⟨UInt64.ofNat (if negative then Nat.pow 2 63 + magnitude else magnitude)⟩

/-- An exponent field of zero has no leading bit and the step of the field one. -/
def unitsOf (magnitude : Nat) : Nat :=
  let exponent := magnitude / Nat.pow 2 52
  let fraction := magnitude % Nat.pow 2 52
  if exponent = 0 then fraction else (Nat.pow 2 52 + fraction) * Nat.pow 2 (exponent - 1)

def one : Nat :=
  Nat.pow 2 1074

/-- Infinities stand beyond all finite numbers. -/
def units (x : Binary64) : Int :=
  if x.negative then -(unitsOf x.magnitude : Int) else unitsOf x.magnitude

/-- Equality of numbers: the zeros are equal and what is not a number equals nothing. -/
def same (x y : Binary64) : Bool :=
  !x.isNaN && !y.isNaN && x.units == y.units

end Binary64

end Criteria
