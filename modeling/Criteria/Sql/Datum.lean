import Criteria.Binary64.Digits
import Criteria.Row
import Criteria.Sql.Numeral

namespace Criteria.Sql

/-- Stored values. Text is kept as the bytes that were stored. -/
inductive Datum
  | null
  | integer (value : Int64)
  | real (value : Binary64)
  | text (bytes : ByteArray)
  | blob (bytes : ByteArray)
  deriving DecidableEq

namespace Datum

def ofString (s : String) : Datum :=
  text s.toUTF8

/-- What is not a number is stored as a null. -/
def ofReal (x : Binary64) : Datum :=
  if x.isNaN then null else real x

/-- Text that is not valid UTF-8 is shown as its bytes. -/
def cell : Datum → Cell
  | null => .null
  | integer n => .integer n
  | real x => .real x
  | text bytes =>
      match String.fromUTF8? bytes with
      | some s => .text s
      | none => .blob bytes
  | blob bytes => .blob bytes

/-! The order of values: nulls, then numbers by size, then texts, then blobs, both bytewise. -/

def rank : Datum → Nat
  | null => 0
  | integer _ => 1
  | real _ => 1
  | text _ => 2
  | blob _ => 3

/-- The exact size of a number in units of `2 ^ -1074`. -/
def units : Datum → Int
  | integer n => n.toInt * Binary64.one
  | real x => x.units
  | _ => 0

def bytes : Datum → List UInt8
  | text bytes => bytes.data.toList
  | blob bytes => bytes.data.toList
  | _ => []

def order (a b : Datum) : Ordering :=
  (compare a.rank b.rank).then ((compare a.units b.units).then (compare a.bytes b.bytes))

def ofNumeral (n : Numeral) : Datum :=
  if n.isWhole ∧ Int64.minValue.toInt ≤ n.toInt ∧ n.toInt ≤ Int64.maxValue.toInt then
    integer (.ofInt n.toInt)
  else real n.toBinary64

/-- Text that is a number becomes it; all else stays as it is. -/
def toNumber : Datum → Datum
  | text bytes =>
      match (String.fromUTF8? bytes).bind (Numeral.ofText? ·.toList) with
      | some n => ofNumeral n
      | none => text bytes
  | other => other

/-- A real in at most fifteen digits. -/
def realText (x : Binary64) : List Char :=
  let exact := Binary64.decimal x.magnitude
  let place := (Nat.toDigits 10 exact).length - 15
  let digits := Nat.toDigits 10 ((2 * exact / Nat.pow 10 place + 1) / 2)
  let exponent : Int := (digits.length + place : Nat) - 1 - (Binary64.decimalPlaces : Int)
  let shown := (digits.reverse.dropWhile (· = '0')).reverse
  let size :=
    if x.isZero then "0.0".toList
    else if ¬ x.isFinite then "Inf".toList
    else if -5 < exponent ∧ exponent < 15 then
      (Binary64.Digits.mk shown exponent).text
    else
      let fraction := shown.drop 1
      let power := Nat.toDigits 10 exponent.natAbs
      shown.take 1 ++ '.' :: (if fraction.isEmpty then ['0'] else fraction) ++
        ['e', if exponent < 0 then '-' else '+'] ++
        List.replicate (2 - power.length) '0' ++ power
  if x.negative && !x.isZero then '-' :: size else size

/-- The bytes of a value's text form, which patterns are matched with. -/
def textBytes? : Datum → Option (List UInt8)
  | null => none
  | integer n => some (toString n.toInt).toUTF8.data.toList
  | real x => some (String.ofList (realText x)).toUTF8.data.toList
  | text bytes => some bytes.data.toList
  | blob bytes => some bytes.data.toList

end Datum

end Criteria.Sql
