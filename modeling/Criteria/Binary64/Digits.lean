import Criteria.Binary64

/-!
Decimal text of binary64 numbers: the fewest digits that read back to the number, the nearest such
digits, and of two equally near ones the larger.
-/

namespace Criteria

namespace Binary64

/-- One unit is `5 ^ 1074` times `10 ^ -1074`, so every finite number has this many decimal
places at most. -/
def decimalPlaces : Nat :=
  1074

/-- The number as a whole number of its last possible decimal place. -/
def decimal (magnitude : Nat) : Nat :=
  unitsOf magnitude * Nat.pow 5 decimalPlaces

/-- Whether `candidate * 10 ^ place` rounds to the number: it lies between the midpoints to both
neighbours, the midpoints included for an even magnitude. -/
def readsBack (magnitude candidate place : Nat) : Bool :=
  let low := decimal (magnitude - 1) + decimal magnitude
  let high := decimal magnitude + decimal (magnitude + 1)
  let twice := 2 * (candidate * Nat.pow 10 place)
  if magnitude % 2 = 0 then low ≤ twice ∧ twice ≤ high else low < twice ∧ twice < high

/-- The nearer of the number's two neighbours on the grid of a decimal place that read back. -/
def onGrid? (magnitude place : Nat) : Option Nat :=
  let below := decimal magnitude / Nat.pow 10 place
  let remainder := decimal magnitude % Nat.pow 10 place
  match readsBack magnitude below place, readsBack magnitude (below + 1) place with
  | true, true => some (if 2 * remainder < Nat.pow 10 place then below else below + 1)
  | true, false => some below
  | false, true => some (below + 1)
  | false, false => none

/-- The coefficient and place on the coarsest grid with a point that reads back. The finest grid
holds the number itself. -/
def shortestFrom (magnitude : Nat) : Nat → Nat × Nat
  | 0 => (decimal magnitude, 0)
  | place + 1 =>
      match onGrid? magnitude (place + 1) with
      | some coefficient => (coefficient, place + 1)
      | none => shortestFrom magnitude place

/-- Significant digits, and the power of ten that the first of them counts. -/
structure Digits where
  digits : List Char
  exponent : Int

def shortest (magnitude : Nat) : Digits :=
  let length := (Nat.toDigits 10 (decimal magnitude)).length
  let found := shortestFrom magnitude (length - 1)
  let digits := Nat.toDigits 10 found.1
  { digits := (digits.reverse.dropWhile (· = '0')).reverse
    exponent := (digits.length + found.2 : Nat) - 1 - (decimalPlaces : Int) }

/-- Exponents from -4 to 15 are written out; all others follow the digits. -/
def isPositional (exponent : Int) : Bool :=
  -5 < exponent ∧ exponent < 16

/-- A point always stands between two digits. -/
def Digits.text (d : Digits) : List Char :=
  if isPositional d.exponent then
    if d.exponent < 0 then
      "0.".toList ++ List.replicate (-d.exponent - 1).toNat '0' ++ d.digits
    else
      let whole := d.exponent.toNat + 1
      let fraction := d.digits.drop whole
      d.digits.take whole ++ List.replicate (whole - d.digits.length) '0' ++
        '.' :: (if fraction.isEmpty then ['0'] else fraction)
  else
    let fraction := d.digits.drop 1
    d.digits.take 1 ++ '.' :: (if fraction.isEmpty then ['0'] else fraction) ++
      'e' :: (toString d.exponent).toList

/-- The canonical text of a number: the sign is kept for all but what is not a number. -/
def text (x : Binary64) : String :=
  if x.isNaN then "NaN.0"
  else
    let size : List Char :=
      if x.isZero then "0.0".toList
      else if x.isFinite then (shortest x.magnitude).text
      else "inf.0".toList
    String.ofList (if x.negative then '-' :: size else size)

end Binary64

end Criteria
