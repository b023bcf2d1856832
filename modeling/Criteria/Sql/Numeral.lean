import Criteria.Binary64.Rounding

namespace Criteria.Sql

structure Numeral where
  negative : Bool
  /-- The digits on both sides of the point. -/
  coefficient : Nat
  /-- The power of ten that the last of the digits counts. -/
  exponent : Int
  /-- Neither a point nor an exponent is written. -/
  isWhole : Bool
  deriving DecidableEq

namespace Numeral

def isBlank (c : Char) : Bool :=
  c = ' ' ∨ ('\t' ≤ c ∧ c ≤ '\r')

def readSign : List Char → Bool × List Char
  | '-' :: rest => (true, rest)
  | '+' :: rest => (false, rest)
  | text => (false, text)

def readDigits (text : List Char) : List Char × List Char :=
  (text.takeWhile Char.isDigit, text.dropWhile Char.isDigit)

def value (digits : List Char) : Nat :=
  Nat.ofDigitChars 10 digits 0

/-- The digits behind a point, if there is one. -/
def readFraction : List Char → Option (List Char) × List Char
  | '.' :: rest => ((readDigits rest).map some id)
  | text => (none, text)

/-- An exponent that is begun has to have digits. -/
def readExponent? (text : List Char) : Option (Option Int × List Char) :=
  match text with
  | c :: rest =>
      if c = 'e' ∨ c = 'E' then
        let (negative, rest) := readSign rest
        let (digits, rest) := readDigits rest
        if digits.isEmpty then none
        else some (some (if negative then -(value digits : Int) else value digits), rest)
      else some (none, text)
  | [] => some (none, [])

def ofText? (text : List Char) : Option Numeral :=
  let (negative, rest) := readSign (text.dropWhile isBlank)
  let (whole, rest) := readDigits rest
  let (fraction, rest) := readFraction rest
  let places := fraction.getD []
  if whole.isEmpty && places.isEmpty then none
  else
    match readExponent? rest with
    | some (exponent, rest) =>
        if (rest.dropWhile isBlank).isEmpty then
          some
            { negative
              coefficient := value (whole ++ places)
              exponent := exponent.getD 0 - places.length
              isWhole := fraction.isNone && exponent.isNone }
        else none
    | none => none

def toInt (n : Numeral) : Int :=
  if n.negative then -(n.coefficient : Int) else n.coefficient

def toBinary64 (n : Numeral) : Binary64 :=
  .ofDecimal n.negative n.coefficient n.exponent

end Numeral

end Criteria.Sql
