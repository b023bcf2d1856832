import Criteria.CommandLine.Options

namespace Criteria.CommandLine

inductive Setting
  | text (value : String)
  | integer (value : Int64)
  | count (value : UInt64)
  | flag
  deriving DecidableEq

/-! Numbers are written in decimal digits of ASCII. A plus sign and leading zeros do no harm. -/

def readNat? (digits : List Char) : Option Nat :=
  if digits.isEmpty ∨ ¬ digits.all Char.isDigit then none
  else some (Nat.ofDigitChars 10 digits 0)

def readInt? : List Char → Option Int
  | '-' :: digits => (readNat? digits).map fun n => -(n : Int)
  | '+' :: digits => (readNat? digits).map Int.ofNat
  | digits => (readNat? digits).map Int.ofNat

def readInteger? (text : String) : Option Int64 :=
  match readInt? text.toList with
  | some n =>
      if Int64.minValue.toInt ≤ n ∧ n ≤ Int64.maxValue.toInt then some (.ofInt n) else none
  | none => none

def readCount? (text : String) : Option UInt64 :=
  let digits :=
    match text.toList with
    | '+' :: digits => digits
    | digits => digits
  match readNat? digits with
  | some n => if n < UInt64.size then some (.ofNat n) else none
  | none => none

def Setting.read (kind : Kind) (text : String) : Except UsageError Setting :=
  match kind with
  | .path => if text.isEmpty then .error .invalidValue else .ok (.text text)
  | .text => .ok (.text text)
  | .integer =>
      match readInteger? text with
      | some n => .ok (.integer n)
      | none => .error .valueValidation
  | .count =>
      match readCount? text with
      | some n => .ok (.count n)
      | none => .error .valueValidation
  | .flag => .ok .flag

end Criteria.CommandLine
