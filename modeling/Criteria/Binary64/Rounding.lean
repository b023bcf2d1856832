import Criteria.Binary64

namespace Criteria

def roundHalfEven (numerator denominator : Nat) : Nat :=
  let quotient := numerator / denominator
  let twice := 2 * (numerator % denominator)
  if twice < denominator ∨ (twice = denominator ∧ quotient % 2 = 0) then quotient
  else quotient + 1

namespace Binary64

/-- The magnitude nearest to a ratio of units. A significand that rounds up to the next power of
two carries into the exponent field by itself. -/
def nearest (numerator denominator : Nat) : Nat :=
  let shift := (numerator / denominator).log2 - 52
  min (shift * Nat.pow 2 52 + roundHalfEven numerator (denominator * Nat.pow 2 shift)) infinity

def ofInt (n : Int) : Binary64 :=
  ofMagnitude (n < 0) (nearest (n.natAbs * one) 1)

/-- Beyond these powers of ten every product with a whole number below `10 ^ length` is known:
it exceeds the largest number or vanishes. -/
def decimalReach : Int :=
  400

def ofDecimal (negative : Bool) (coefficient : Nat) (exponent : Int) : Binary64 :=
  let length : Int := (Nat.toDigits 10 coefficient).length
  if coefficient = 0 ∨ exponent + length < -decimalReach then ofMagnitude negative 0
  else if decimalReach < exponent then ofMagnitude negative infinity
  else ofMagnitude negative
    (nearest (coefficient * Nat.pow 10 exponent.toNat * one) (Nat.pow 10 (-exponent).toNat))

end Binary64

end Criteria
